import ComponentCrd.Proofs.Schema.Annotating
import ComponentCrd.Proofs.Schema.LostProperties

/-! Nothing is dropped without a report, and nothing that is kept is lost. At every object of the
source whose translation stands in the output the names of the properties split into those that are
kept and those that are dropped; a dropped one is reported with the reason for which its node was
refused; and what stays required is what the source requires of the kept ones.
-/

namespace ComponentCrd

-----------------------------------------------------------------------------------------
-- Results of attempts whose refusals are listed
-----------------------------------------------------------------------------------------

namespace Attempt

variable {α β : Type} {attempt : Attempt α} {next : α → Attempt β} {listed : Refusal → Prop}
  {property : α → Prop} {later : β → Prop}

/-- If every refusal that the attempt passes over is listed, its result has the property. -/
def YieldsListed (attempt : Attempt α) (listed : Refusal → Prop) (property : α → Prop) : Prop :=
  (∀ refusal ∈ attempt.skipped, listed refusal) → attempt.Yields property

theorem Yields.yieldsListed (yields : attempt.Yields property)
    : attempt.YieldsListed listed property :=
  fun _ => yields

theorem yieldsListed_pure {result : α} (holds : property result)
    : (pure result : Attempt α).YieldsListed listed property :=
  (yields_pure holds).yieldsListed

theorem yieldsListed_fail {failure : Failure}
    : (fail failure : Attempt α).YieldsListed listed property :=
  yields_fail.yieldsListed

/-- Of two attempts in a row both have their refusals listed, if the two together have. -/
theorem YieldsListed.bind (first : attempt.YieldsListed listed property)
    (second : ∀ middle, property middle → (next middle).YieldsListed listed later)
    : (attempt >>= next).YieldsListed listed later := by
  intro all result ok
  cases outcome : attempt.outcome with
  | error failure =>
      rw [bind_of_error outcome] at ok
      cases ok
  | ok middle =>
      rw [bind_of_ok outcome] at all ok
      have holds := first (fun refusal member => all refusal (List.mem_append_left _ member))
        middle outcome
      exact second middle holds (fun refusal member => all refusal (List.mem_append_right _ member))
        result ok

theorem YieldsListed.map {f : α → β}
    (yields : attempt.YieldsListed listed fun result => later (f result))
    : (f <$> attempt).YieldsListed listed later := by
  rw [map_eq_bind]
  exact yields.bind fun _ holds => yieldsListed_pure holds

/-- What is left of an attempt is its result, or nothing after a failure that is listed. -/
theorem YieldsListed.orSkip (yields : attempt.YieldsListed listed property)
    : attempt.orSkip.YieldsListed listed fun kept? =>
        match kept? with
        | some result => attempt.outcome = .ok result ∧ property result
        | none =>
            ∃ refusal, attempt.outcome = .error (.unsupported refusal)
              ∧ refusal.cause.severity = .skippable ∧ listed refusal := by
  intro all kept? ok
  unfold Attempt.orSkip at all ok
  split at ok
  · next result outcome =>
      cases ok
      simp only [outcome] at all
      exact ⟨outcome, yields all result outcome⟩
  · next refusal outcome =>
      split at ok
      · next skippable =>
          cases ok
          simp only [outcome, skippable, List.mem_append, List.mem_singleton] at all
          exact ⟨refusal, outcome, skippable, all refusal (.inr rfl)⟩
      · cases ok
  · cases ok

end Attempt

namespace Document

open Schema

-----------------------------------------------------------------------------------------
-- The accounts of one level
-----------------------------------------------------------------------------------------

/-- The translation of the node at a place, while the references on the trail are being resolved. -/
abbrev attemptAt (doc : Document) (trail : List Reference) (place : Place) : Attempt Schema :=
  ofNode (doc.resolve trail) place.node place.path

/-- The node at the place is refused in a way that costs only the property it stands in. -/
def Drops (doc : Document) (trail : List Reference) (place : Place) (refusal : Refusal) : Prop :=
  (doc.attemptAt trail place).outcome = .error (.unsupported refusal)
  ∧ refusal.cause.severity = .skippable

/-- The collected entries are exactly the results of the members, each under the name of its member.
-/
def Collects {β : Type} (result : String → Json → β → Prop) (members : Entries Json)
    (collected : Entries β)
    : Prop :=
  ∀ name value,
    (name, value) ∈ collected ↔ ∃ node, (name, node) ∈ members ∧ result name node value

/-- The properties below a path split into the kept ones and the dropped ones. The kept ones are
those whose nodes are translated, with their translations; the dropped ones are those whose nodes
are refused, with refusals that are listed and lie within the property.
-/
structure Split (doc : Document) (listed : Refusal → Prop) (trail : List Reference) (path : Path)
    (members : Entries Json) (kept : Entries Schema) (dropped : Entries Refusal)
    : Prop where
  names : members.names.Perm (kept.names ++ dropped.names)
  keeps
    : Collects
        (fun name node schema =>
          (doc.attemptAt trail ⟨node, .property path name⟩).outcome = .ok schema)
        members kept
  drops
    : Collects (fun name node refusal => doc.Drops trail ⟨node, .property path name⟩ refusal)
        members dropped
  total
    : ∀ name node, (name, node) ∈ members
        → (∃ schema, (doc.attemptAt trail ⟨node, .property path name⟩).outcome = .ok schema)
          ∨ ∃ refusal, doc.Drops trail ⟨node, .property path name⟩ refusal
  reported
    : ∀ name refusal, (name, refusal) ∈ dropped
        → listed refusal ∧ (Path.property path name).Within refusal.path

theorem Collects.cons_some {β : Type} {result : String → Json → β → Prop} {members : Entries Json}
    {collected : Entries β} {name : String} {node : Json} {value : β}
    (collects : Collects result members collected)
    (only : ∀ other, result name node other ↔ other = value)
    : Collects result ((name, node) :: members) ((name, value) :: collected) := by
  intro key other
  constructor
  · intro member
    rcases List.mem_cons.mp member with same | later
    · obtain ⟨rfl, rfl⟩ := Prod.mk.inj same
      exact ⟨node, .head _, (only other).mpr rfl⟩
    · obtain ⟨source, member, gives⟩ := (collects key other).mp later
      exact ⟨source, .tail _ member, gives⟩
  · rintro ⟨source, member, gives⟩
    rcases List.mem_cons.mp member with same | later
    · obtain ⟨rfl, rfl⟩ := Prod.mk.inj same
      obtain rfl := (only other).mp gives
      exact .head _
    · exact .tail _ ((collects key other).mpr ⟨source, later, gives⟩)

theorem Collects.cons_none {β : Type} {result : String → Json → β → Prop} {members : Entries Json}
    {collected : Entries β} {name : String} {node : Json}
    (collects : Collects result members collected) (never : ∀ other, ¬ result name node other)
    : Collects result ((name, node) :: members) collected := by
  intro key other
  rw [collects key other]
  constructor
  · rintro ⟨source, member, gives⟩
    exact ⟨source, .tail _ member, gives⟩
  · rintro ⟨source, member, gives⟩
    rcases List.mem_cons.mp member with same | later
    · obtain ⟨rfl, rfl⟩ := Prod.mk.inj same
      exact (never other gives).elim
    · exact ⟨source, later, gives⟩

variable {doc : Document} {listed : Refusal → Prop} {trail : List Reference} {path : Path}
  {members : Entries Json} {kept : Entries Schema} {dropped : Entries Refusal} {name : String}
  {node : Json}

theorem split_nil : doc.Split listed trail path [] [] [] := by
  constructor <;> simp [Entries.names, Collects]

/-- One more property whose node is translated is kept. -/
theorem Split.keep {schema : Schema} (split : doc.Split listed trail path members kept dropped)
    (translated : (doc.attemptAt trail ⟨node, .property path name⟩).outcome = .ok schema)
    : doc.Split listed trail path ((name, node) :: members) ((name, schema) :: kept) dropped where
  names := split.names.cons name
  keeps := split.keeps.cons_some fun other => by simp [translated, eq_comm]
  drops := split.drops.cons_none fun other drops => nomatch translated.symm.trans drops.1
  total := by
    rintro key value (_ | ⟨_, member⟩)
    · exact .inl ⟨schema, translated⟩
    · exact split.total key value member
  reported := split.reported

/-- One more property whose node is refused is dropped. -/
theorem Split.drop {refusal : Refusal} (split : doc.Split listed trail path members kept dropped)
    (drops : doc.Drops trail ⟨node, .property path name⟩ refusal) (isListed : listed refusal)
    : doc.Split listed trail path ((name, node) :: members) kept
        ((name, refusal) :: dropped) where
  names := (split.names.cons name).trans List.perm_middle.symm
  keeps := split.keeps.cons_none fun other translated => nomatch drops.1.symm.trans translated
  drops := split.drops.cons_some fun other => by
    constructor
    · intro same
      simpa using same.1.symm.trans drops.1
    · rintro rfl
      exact drops
  total := by
    rintro key value (_ | ⟨_, member⟩)
    · exact .inr ⟨refusal, drops⟩
    · exact split.total key value member
  reported := by
    rintro key other (_ | ⟨_, member⟩)
    · have within := losesWithin_ofNode (losesWithin_resolve doc trail) node (.property path name)
      exact ⟨isListed, within refusal drops.1 drops.2⟩
    · exact split.reported key other member

/-- Properties that are translated split, and every node among them that is translated has the
property that its translation yields. By induction over the properties: each is kept or dropped, and
the refusals passed over in it are among those passed over in all of them.
-/
theorem split_ofProperties {property : Place → Schema → Prop}
    (each
      : ∀ name node, (name, node) ∈ members
          → (doc.attemptAt trail ⟨node, .property path name⟩).YieldsListed listed
              (property ⟨node, .property path name⟩))
    : (ofProperties (doc.resolve trail) members path).YieldsListed listed fun kept =>
        (∃ dropped, doc.Split listed trail path members kept dropped)
        ∧ ∀ name node schema, (name, node) ∈ members
            → (doc.attemptAt trail ⟨node, .property path name⟩).outcome = .ok schema
            → property ⟨node, .property path name⟩ schema := by
  induction members with
  | nil =>
      rw [ofProperties]
      exact Attempt.yieldsListed_pure ⟨⟨[], split_nil⟩, by simp⟩
  | cons entry rest ih =>
      obtain ⟨name, node⟩ := entry
      rw [ofProperties_cons]
      have first := (each name node (.head _)).orSkip
      have others := ih fun name node member => each name node (.tail _ member)
      refine first.bind fun kept? left => others.bind fun kept split => ?_
      obtain ⟨⟨dropped, split⟩, below⟩ := split
      refine Attempt.yieldsListed_pure ?_
      cases kept? with
      | some schema =>
          obtain ⟨translated, holds⟩ := left
          refine ⟨⟨dropped, split.keep translated⟩, ?_⟩
          rintro key value other (_ | ⟨_, member⟩) ok
          · obtain rfl := Except.ok.inj (translated.symm.trans ok)
            exact holds
          · exact below key value other member ok
      | none =>
          obtain ⟨refusal, refused, skippable, isListed⟩ := left
          refine ⟨⟨_, split.drop ⟨refused, skippable⟩ isListed⟩, ?_⟩
          rintro key value other (_ | ⟨_, member⟩) ok
          · cases refused.symm.trans ok
          · exact below key value other member ok

/-- One level of an object: its properties split, and it goes on to require exactly the kept names
among those that the source needs.
-/
structure Level (doc : Document) (listed : Refusal → Prop) (trail : List Reference) (path : Path)
    (members : Entries Json) (needed : List String) (kept : Entries Schema)
    (required : List String)
    : Prop where
  split : ∃ dropped, doc.Split listed trail path members kept dropped
  required : ∀ name, name ∈ required ↔ name ∈ needed ∧ name ∈ kept.names

-----------------------------------------------------------------------------------------
-- The accounts of a whole schema
-----------------------------------------------------------------------------------------

/-- The names that a source object requires. -/
def namesRequired (source : Entries Json) : List String :=
  ((source.lookup "required").bind Json.strings?).getD []

/-- The schema accounts for the node at the place, level by level: every object in it, and every
object of the source that it comes from, through references or not, keeps and drops properties as
`Level` says. The annotations of a node are of no concern.
-/
inductive Accounts (doc : Document) (listed : Refusal → Prop)
    : List Reference → Place → Schema → Prop
  | scalar {trail source path type notes} (plain : Plain source)
    (typed : source.lookup "type" = some (.string (ScalarType.type type).name))
    : doc.Accounts listed trail ⟨.object source, path⟩ (.scalar type notes)
  | array {trail source path node items notes} (list : ListNode source)
    (found : source.lookup "items" = some node)
    (below : doc.Accounts listed trail ⟨node, .items path⟩ items)
    : doc.Accounts listed trail ⟨.object source, path⟩ (.array items notes)
  | object {trail source path members? kept? values? required notes} (object : ObjectNode source)
    (found : source.lookup "properties" = Option.map Json.object members?)
    (same : Option.isSome kept? = Option.isSome members?)
    (level
      : doc.Level listed trail path (members?.getD []) (namesRequired source) (kept?.getD [])
          required)
    (properties
      : ∀ name node schema, (name, node) ∈ members?.getD []
          → (doc.attemptAt trail ⟨node, .property path name⟩).outcome = .ok schema
          → doc.Accounts listed trail ⟨node, .property path name⟩ schema)
    (other : Option.isSome values? = source.has "additionalProperties")
    (values
      : ∀ node schema, source.lookup "additionalProperties" = some node → values? = some schema
          → doc.Accounts listed trail ⟨node, .values path⟩ schema)
    : doc.Accounts listed trail ⟨.object source, path⟩ (.object kept? values? required notes)
  | outside {trail source path text notes} (refers : Refers source (.external text))
    : doc.Accounts listed trail ⟨.object source, path⟩ (.freeform notes)
  | type {trail source path token target schema notes} (refers : Refers source (.type token))
    (found : doc.type? token = some target)
    (behind : doc.Accounts listed (.type token :: trail) ⟨target, path⟩ schema)
    : doc.Accounts listed trail ⟨.object source, path⟩ (schema.withNotes notes)
  | resource {trail source path token resource kept required notes}
    (refers : Refers source (.resource token)) (found : doc.resource? token = some resource)
    (level
      : doc.Level listed (.resource token :: trail) path resource.inputProperties
          resource.requiredInputs kept required)
    (properties
      : ∀ name node schema, (name, node) ∈ resource.inputProperties
          → (doc.attemptAt (.resource token :: trail) ⟨node, .property path name⟩).outcome
              = .ok schema
          → doc.Accounts listed (.resource token :: trail) ⟨node, .property path name⟩ schema)
    : doc.Accounts listed trail ⟨.object source, path⟩ (.object (some kept) none required notes)

-----------------------------------------------------------------------------------------
-- The parts of an object
-----------------------------------------------------------------------------------------

/-- Required names that are read are those of the source, which are readable then. -/
theorem yields_requiredNames (source : Entries Json) (path : Path)
    : (requiredNames source path).Yields fun required =>
        (∀ name, name ∈ required ↔ name ∈ namesRequired source)
        ∧ ∀ raw, source.lookup "required" = some raw → ∃ names, raw.strings? = some names := by
  intro required read
  refine ⟨fun name => ?_, readable_of_requiredNames read⟩
  unfold requiredNames at read
  unfold namesRequired
  split at read
  · next missing =>
      cases read
      simp [missing]
  · next raw found =>
      split at read
      · next names strings =>
          cases read
          simp [found, strings, mem_sortedNames]
      · cases read

variable {source : Entries Json}

theorem yieldsListed_propertiesOf
    (below
      : ∀ next : Place, sizeOf next.node < sizeOf source
          → (doc.attemptAt trail next).YieldsListed listed (doc.Accounts listed trail next))
    : (propertiesOf (doc.resolve trail) source path).YieldsListed listed fun kept? =>
        ∃ members? : Option (Entries Json),
          source.lookup "properties" = members?.map .object
          ∧ kept?.isSome = members?.isSome
          ∧ (∃ dropped,
              doc.Split listed trail path (members?.getD []) (kept?.getD []) dropped)
          ∧ ∀ name node schema, (name, node) ∈ members?.getD []
              → (doc.attemptAt trail ⟨node, .property path name⟩).outcome = .ok schema
              → doc.Accounts listed trail ⟨node, .property path name⟩ schema := by
  rw [propertiesOf_eq]
  split
  · next missing =>
      exact Attempt.yieldsListed_pure ⟨none, missing, rfl, ⟨[], split_nil⟩, by simp⟩
  · next members found =>
      have each (name : String) (node : Json) (member : (name, node) ∈ members)
          : (doc.attemptAt trail ⟨node, .property path name⟩).YieldsListed listed
              (doc.Accounts listed trail ⟨node, .property path name⟩) := by
        refine below ⟨node, _⟩ ?_
        have := Entries.sizeOf_members_lt found
        have := List.sizeOf_lt_of_mem member
        simp only [Prod.mk.sizeOf_spec] at this ⊢
        omega
      refine .map fun all kept translated => ?_
      obtain ⟨split, properties⟩ := split_ofProperties each all kept translated
      exact ⟨some members, found, rfl, split, properties⟩
  · exact Attempt.yieldsListed_fail

theorem yieldsListed_valuesOf
    (below
      : ∀ next : Place, sizeOf next.node < sizeOf source
          → (doc.attemptAt trail next).YieldsListed listed (doc.Accounts listed trail next))
    : (valuesOf (doc.resolve trail) source path).YieldsListed listed fun values? =>
        values?.isSome = source.has "additionalProperties"
        ∧ ∀ node schema, source.lookup "additionalProperties" = some node
            → values? = some schema
            → doc.Accounts listed trail ⟨node, .values path⟩ schema := by
  rw [valuesOf_eq]
  split
  · next missing =>
      exact Attempt.yieldsListed_pure ⟨by simp [Entries.has, missing], by simp⟩
  · next members found =>
      refine .map fun all schema translated => ⟨by simp [Entries.has, found], ?_⟩
      rintro node _ same ⟨⟩
      obtain rfl := Option.some.inj (found.symm.trans same)
      exact below ⟨.object members, .values path⟩ (Entries.sizeOf_lt_of_lookup found) all schema
        translated
  · exact Attempt.yieldsListed_fail

/-- An object accounts for its node where the smaller nodes do. -/
theorem accounts_ofObject (plain : Plain source)
    (typed : source.lookup "type" = some (.string "object"))
    (below
      : ∀ next : Place, sizeOf next.node < sizeOf source
          → (doc.attemptAt trail next).YieldsListed listed (doc.Accounts listed trail next))
    : (ofObject (doc.resolve trail) source path).YieldsListed listed fun shape =>
        ∀ notes, doc.Accounts listed trail ⟨.object source, path⟩ (shape.withNotes notes) := by
  rw [ofObject]
  refine (yields_requiredNames source path).yieldsListed.bind fun needed reads => ?_
  refine (yieldsListed_propertiesOf below).bind fun kept? inProperties => ?_
  refine (yieldsListed_valuesOf below).bind fun values? inValues => ?_
  obtain ⟨same, readable⟩ := reads
  obtain ⟨members?, found, both, split, props⟩ := inProperties
  obtain ⟨other, values⟩ := inValues
  refine Attempt.yieldsListed_pure fun notes => ?_
  refine .object ⟨plain, typed, readable⟩ found both ⟨split, fun name => ?_⟩ props other values
  rw [List.mem_filter, same, Entries.has_iff_mem_names]

-----------------------------------------------------------------------------------------
-- Nodes and references
-----------------------------------------------------------------------------------------

/-- The shape of a node accounts for the node where the smaller nodes do, and what the reference of
the node leads to.
-/
theorem accounts_ofShape (free : Keyword.firstIn? source = none)
    (behind
      : ∀ reference, Refers source reference
          → (doc.resolve trail reference path).YieldsListed listed fun shape =>
              ∀ notes, doc.Accounts listed trail ⟨.object source, path⟩ (shape.withNotes notes))
    (below
      : ∀ next : Place, sizeOf next.node < sizeOf source
          → (doc.attemptAt trail next).YieldsListed listed (doc.Accounts listed trail next))
    : (ofShape (doc.resolve trail) source path).YieldsListed listed fun shape =>
        ∀ notes, doc.Accounts listed trail ⟨.object source, path⟩ (shape.withNotes notes) := by
  refine ofShape_cases (doc.resolve trail) path ?reference ?unreadable ?list ?noItems ?object
    ?scalar ?unknownType ?typeNotString ?enumWithoutType ?noShape
  case reference => exact fun text found => behind _ ⟨free, text, found, rfl⟩
  case list =>
    intro items own typed found
    have inside := below ⟨.object items, .items path⟩ (Entries.sizeOf_lt_of_lookup found)
    refine inside.bind fun schema accounts => Attempt.yieldsListed_pure fun notes => ?_
    exact .array ⟨⟨free, own⟩, typed⟩ found accounts
  case object => exact fun own typed => accounts_ofObject ⟨free, own⟩ typed below
  case scalar =>
    intro type own typed
    exact Attempt.yieldsListed_pure fun notes => .scalar ⟨free, own⟩ typed
  case unreadable | noItems | unknownType | typeNotString | enumWithoutType | noShape =>
    intros
    exact Attempt.yieldsListed_fail

/-- A source whose required names are left out if there are none requires exactly these names. -/
theorem namesRequired_eq {required : List String}
    (found
      : source.lookup "required"
        = if required.isEmpty then none else some (.ofStrings required))
    : namesRequired source = required := by
  rw [namesRequired, found, Json.strings?_leftOut]

/-- What accounts for the node of a resource is an object of its inputs. -/
theorem Accounts.resource_node {resource : Resource} {schema : Schema}
    (accounts : doc.Accounts listed trail ⟨resource.node, path⟩ schema)
    : ∃ kept required notes,
        schema = .object (some kept) none required notes
        ∧ doc.Level listed trail path resource.inputProperties resource.requiredInputs kept required
        ∧ ∀ name node schema, (name, node) ∈ resource.inputProperties
            → (doc.attemptAt trail ⟨node, .property path name⟩).outcome = .ok schema
            → doc.Accounts listed trail ⟨node, .property path name⟩ schema := by
  obtain ⟨source, eq, own, properties, _, values, typed, requires⟩ := resource.node_eq
  have needed (name : String) : name ∈ namesRequired source ↔ name ∈ resource.requiredInputs := by
    rw [namesRequired_eq requires]
    exact mem_sortedNames
  rw [eq] at accounts
  have plain {reference : Reference} : ¬ Refers source reference := by
    rintro ⟨_, text, found, _⟩
    exact nomatch own.symm.trans found
  cases accounts with
  | @scalar _ _ _ type _ _ named =>
      have other : type.type.name ≠ "object" := by cases type <;> decide
      exact (other (by simpa using named.symm.trans typed)).elim
  | array list => simpa using list.typed.symm.trans typed
  | @object _ _ _ members? kept? values? required notes _ found same level below other _ =>
      obtain ⟨members, rfl, inputs⟩ := Option.map_eq_some_iff.mp (found.symm.trans properties)
      obtain rfl := Json.object.inj inputs
      obtain ⟨kept, rfl⟩ := Option.isSome_iff_exists.mp same
      obtain rfl : values? = none := by simpa [Entries.has, values] using other
      refine ⟨kept, required, notes, rfl, ⟨level.split, fun name => ?_⟩, below⟩
      rw [level.required, needed]
      rfl
  | outside refers => exact (plain refers).elim
  | type refers => exact (plain refers).elim
  | resource refers => exact (plain refers).elim

/-- What accounts for the node that stands behind a reference accounts for the node with the
reference, whatever annotations that adds.
-/
theorem Accounts.behind {reference : Reference} {node : Json} {schema : Schema}
    (accounts : doc.Accounts listed (reference :: trail) ⟨node, path⟩ schema)
    (refers : Refers source reference) (found : doc.standIn? reference = some node)
    (notes : Annotations)
    : doc.Accounts listed trail ⟨.object source, path⟩ (schema.withNotes notes) := by
  unfold standIn? target? at found
  cases reference with
  | type token =>
      cases target : doc.type? token with
      | none => simp [target] at found
      | some value =>
          cases value with
          | object members =>
              obtain rfl : .object members = node := by simpa [target] using found
              exact .type refers target accounts
          | null | bool _ | number _ | string _ | array _ => simp [target] at found
  | resource token =>
      cases target : doc.resource? token with
      | none => simp [target] at found
      | some resource =>
          obtain rfl : resource.node = node := by simpa [target] using found
          obtain ⟨kept, required, _, rfl, level, below⟩ := accounts.resource_node
          exact .resource refers target level below
  | external text => cases found

/-- Every node accounts for its translation, by recursion over the references that are not on the
trail yet, and for each trail over the nodes below.
-/
theorem accounts_attemptAt (doc : Document) (listed : Refusal → Prop) (trail : List Reference)
    (place : Place)
    : (doc.attemptAt trail place).YieldsListed listed (doc.Accounts listed trail place) := by
  obtain ⟨node, path⟩ := place
  cases node with
  | object source =>
      cases keyword : Keyword.firstIn? source with
      | some found =>
          rw [attemptAt, ofNode_of_keyword _ path keyword]
          exact Attempt.yieldsListed_fail
      | none =>
          -- The nodes below keep the trail; a node behind a reference can be larger than this one,
          -- but its trail is longer.
          have below (next : Place) (smaller : sizeOf next.node < sizeOf source)
              : (doc.attemptAt trail next).YieldsListed listed (doc.Accounts listed trail next) :=
            accounts_attemptAt doc listed trail next
          have behind (reference : Reference) (refers : Refers source reference)
              : (doc.resolve trail reference path).YieldsListed listed fun shape =>
                  ∀ notes,
                    doc.Accounts listed trail ⟨.object source, path⟩ (shape.withNotes notes) := by
            refine doc.resolve_cases trail reference path ?outside ?cyclic ?behind ?deadEnd
            case outside =>
              intro outside
              obtain ⟨text, rfl⟩ := Reference.eq_external_of_not_isLocal outside
              exact Attempt.yieldsListed_pure fun notes => .outside refers
            case cyclic => exact fun _ _ => Attempt.yieldsListed_fail
            case behind =>
              intro node fresh found all shape translated notes
              have := unvisited_cons_lt (mem_references_of_standIn? found) fresh
              have accounts := accounts_attemptAt doc listed (reference :: trail) ⟨node, path⟩
              exact (accounts all shape translated).behind refers found notes
            case deadEnd => exact fun _ _ => Attempt.yieldsListed_fail
          rw [attemptAt, ofNode_of_no_keyword _ path keyword]
          refine (accounts_ofShape keyword behind below).bind fun shape accounts => ?_
          refine Attempt.Yields.yieldsListed (Attempt.yields_ofCheck fun result annotates => ?_)
          obtain ⟨notes, _, rfl⟩ := annotated_eq_ok.mp annotates
          exact accounts notes
  | null | bool _ | number _ | string _ | array _ =>
      rw [attemptAt, ofNode_of_not_object _ path rfl]
      exact Attempt.yieldsListed_fail
termination_by (doc.unvisited trail, sizeOf place.node)

-----------------------------------------------------------------------------------------
-- The accounts of a component
-----------------------------------------------------------------------------------------

/-- The issues of a component have one with the path and the reason of the refusal. -/
def Lists (token : String) (issues : List SkipIssue) (refusal : Refusal) : Prop :=
  ⟨token, refusal.path.text, refusal.cause.summary⟩ ∈ issues

variable {component : Component}

/-- The issues of a component list every refusal that the attempt passed over. -/
theorem lists_of_skipped {refusal : Refusal}
    (member : refusal ∈ (doc.attemptInputs component).skipped)
    : Lists component.token (doc.issues component) refusal :=
  mem_sortedDistinct.mpr (List.mem_map_of_mem member)

/-- The input properties of an attempt with a result split, and the kept ones account for their
nodes.
-/
theorem split_of_inputs {kept : Entries Schema}
    (ok : (doc.attemptInputs component).outcome = .ok kept)
    : (∃ dropped,
        doc.Split (Lists component.token (doc.issues component)) [] .spec
          component.resource.inputProperties kept dropped)
      ∧ ∀ name node schema, (name, node) ∈ component.resource.inputProperties
          → (doc.attemptAt [] ⟨node, .property .spec name⟩).outcome = .ok schema
          → doc.Accounts (Lists component.token (doc.issues component)) []
              ⟨node, .property .spec name⟩ schema :=
  split_ofProperties (fun name node _ => accounts_attemptAt doc _ [] ⟨node, .property .spec name⟩)
    (fun _ member => lists_of_skipped member) kept ok

/-- Where every input property is dropped, the attempt keeps none. -/
theorem inputs_of_drops
    (all
      : ∀ name node, (name, node) ∈ component.resource.inputProperties
          → ∃ refusal, doc.Drops [] ⟨node, .property .spec name⟩ refusal)
    : (doc.attemptInputs component).outcome = .ok [] := by
  cases outcome : (doc.attemptInputs component).outcome with
  | error failure =>
      obtain ⟨⟨name, node⟩, member, fails, stops⟩ := entry_of_ofProperties outcome
      obtain ⟨refusal, refused, skippable⟩ := all name node member
      obtain rfl := Except.error.inj (fails.symm.trans refused)
      exact nomatch skippable.symm.trans stops
  | ok kept =>
      obtain ⟨⟨dropped, split⟩, _⟩ := split_of_inputs outcome
      cases kept with
      | nil => rfl
      | cons entry rest =>
          obtain ⟨node, member, translated⟩ := (split.keeps entry.1 entry.2).mp (.head _)
          obtain ⟨refusal, refused, _⟩ := all entry.1 node member
          exact nomatch translated.symm.trans refused

/-- A component that is translated, or has nothing left, is accounted for. Its input properties
split as those of every object in the schema do; with nothing left all of them are dropped, and
this is so exactly if there are some and each of them is dropped. Every path that is reported begins
with an input property.
-/
structure Accounted (doc : Document) (component : Component) : Prop where
  translated
    : ∀ translation, doc.translate component = .ok translation
        → ∃ kept required,
            translation.schema = .object (some kept) none required {}
            ∧ doc.Level (Lists component.token translation.skipped) [] .spec
                component.resource.inputProperties component.resource.requiredInputs kept required
            ∧ ∀ name node schema, (name, node) ∈ component.resource.inputProperties
                → (doc.attemptAt [] ⟨node, .property .spec name⟩).outcome = .ok schema
                → doc.Accounts (Lists component.token translation.skipped) []
                    ⟨node, .property .spec name⟩ schema
  nothing
    : ∀ token skipped, doc.translate component = .error (.nothingTranslatable token skipped)
        → token = component.token
          ∧ ∃ dropped,
              doc.Split (Lists component.token skipped) [] .spec
                component.resource.inputProperties [] dropped
  exhausted
    : (∃ token skipped, doc.translate component = .error (.nothingTranslatable token skipped))
      ↔ component.resource.inputProperties ≠ []
        ∧ ∀ name node, (name, node) ∈ component.resource.inputProperties
            → ∃ refusal, doc.Drops [] ⟨node, .property .spec name⟩ refusal
  paths
    : ∀ issue ∈ reported (doc.translate component),
        ∃ name ∈ component.resource.inputProperties.names,
          ∃ rest, issue.path = "spec." ++ name ++ rest

/-- A component has nothing left if its attempt keeps nothing and has issues, and only then. -/
theorem nothing_iff {token : String} {skipped : List SkipIssue}
    : doc.translate component = .error (.nothingTranslatable token skipped)
      ↔ (doc.attemptInputs component).outcome = .ok [] ∧ doc.issues component ≠ []
        ∧ token = component.token ∧ skipped = doc.issues component := by
  constructor
  · intro nothing
    obtain ⟨kept, ok⟩ := inputs_of_translate (.inr ⟨token, skipped, nothing⟩)
    rw [translate_of_inputs ok] at nothing
    split at nothing
    · next left =>
        simp only [Bool.and_eq_true, List.isEmpty_iff, Bool.not_eq_true', List.isEmpty_eq_false_iff]
          at left
        obtain ⟨rfl, some⟩ := left
        cases nothing
        exact ⟨ok, some, rfl, rfl⟩
    · cases nothing
  · rintro ⟨ok, some, rfl, rfl⟩
    rw [translate_of_inputs ok, if_pos (by simpa using some)]

/-- Every component is accounted for. -/
theorem accounted (doc : Document) (component : Component) : doc.Accounted component where
  translated translation translated := by
    obtain ⟨kept, ok⟩ := inputs_of_translate (.inl ⟨translation, translated⟩)
    rw [translate_of_inputs ok] at translated
    split at translated
    · cases translated
    · obtain rfl := Except.ok.inj translated
      obtain ⟨split, below⟩ := split_of_inputs ok
      refine ⟨kept, _, rfl, ⟨split, fun name => ?_⟩, below⟩
      rw [List.mem_filter, Entries.has_iff_mem_names, Resource.normalizedRequired,
        mem_sortedNames]
  nothing token skipped nothing := by
    obtain ⟨ok, _, rfl, rfl⟩ := nothing_iff.mp nothing
    exact ⟨rfl, (split_of_inputs ok).1⟩
  exhausted := by
    constructor
    · rintro ⟨token, skipped, nothing⟩
      obtain ⟨ok, some, _, _⟩ := nothing_iff.mp nothing
      obtain ⟨⟨dropped, split⟩, _⟩ := split_of_inputs ok
      refine ⟨fun empty => some ?_, fun name node member => ?_⟩
      · rw [issues, attemptInputs, empty, ofProperties]
        rfl
      · rcases split.total name node member with ⟨schema, translated⟩ | dropped
        · cases (split.keeps name schema).mpr ⟨node, member, translated⟩
        · exact dropped
    · rintro ⟨some, all⟩
      have ok := inputs_of_drops all
      obtain ⟨⟨dropped, split⟩, _⟩ := split_of_inputs ok
      refine ⟨_, _, nothing_iff.mpr ⟨ok, ?_, rfl, rfl⟩⟩
      obtain ⟨⟨name, node⟩, member⟩ := List.exists_mem_of_ne_nil _ some
      obtain ⟨refusal, drops⟩ := all name node member
      have isListed := (split.reported name refusal ((split.drops name refusal).mpr
        ⟨node, member, drops⟩)).1
      exact List.ne_nil_of_mem isListed
  paths _ member := startsAt_of_reported member

end Document

end ComponentCrd
