import ComponentCrd.Proofs.Schema.Provenance
import Mathlib.Algebra.Order.BigOperators.Group.List
import Mathlib.Algebra.Order.Ring.Nat
import Mathlib.Data.List.Nodup

/-! The translation ends. A translation at work stands at a node with a trail of references that are
being resolved, and asks for the translations of other nodes from there: of nodes below its own, or
of the node behind its reference, with that reference on the trail. The trail never holds a
reference twice and holds references of the document only, and between two references the nodes get
smaller; so the recursion, unfolded a bounded number of times, has nothing left to ask for.
-/

namespace ComponentCrd

open Relation

/-- Attempts go on alike if they go on alike with what the first one results in. -/
theorem Attempt.bind_congr {α β : Type} {attempt : Attempt α} {next other : α → Attempt β}
    (same : ∀ result, attempt.outcome = .ok result → next result = other result)
    : attempt >>= next = attempt >>= other := by
  cases outcome : attempt.outcome with
  | ok result => rw [bind_of_ok outcome, bind_of_ok outcome, same result outcome]
  | error failure => rw [bind_of_error outcome, bind_of_error outcome]

namespace Schema

-----------------------------------------------------------------------------------------
-- The translation of a node by calls
-----------------------------------------------------------------------------------------

section

variable (call : Json → Path → Attempt Schema) (refer : Reference → Attempt Schema)

/-- Translates properties one by one, each by a call, and leaves out those that are refused. -/
def propertiesBy (path : Path) : Entries Json → Attempt (Entries Schema)
  | [] => pure []
  | (name, node) :: rest => do
      let kept? ← (call node (.property path name)).orSkip
      let others ← propertiesBy path rest
      return kept?.toList.map (fun schema => (name, schema)) ++ others

/-- Translates the properties of a node, if it has any to speak of. -/
def memberPropertiesBy (path : Path) : Option Json → Attempt (Option (Entries Schema))
  | none => pure none
  | some (.object properties) => some <$> propertiesBy call path properties
  | some _ => .malformed path .propertiesNotObject

/-- Translates the schema of the other values of an object by a call, if it has one. -/
def memberValuesBy (path : Path) : Option Json → Attempt (Option Schema)
  | none => pure none
  | some (.object values) => some <$> call (.object values) (.values path)
  | some _ => .refuse path .valuesNotObject

/-- Translates the items of a list by a call. -/
def memberItemsBy (path : Path) : Option Json → Attempt Schema
  | some (.object items) =>
      call (.object items) (.items path) >>= fun items => pure (.array items {})
  | _ => .refuse path .itemsNotObject

/-- Translates an object by calls for its properties and for its other values. -/
def objectBy (source : Entries Json) (path : Path) : Attempt Schema := do
  let required ← requiredNames source path
  let properties? ← memberPropertiesBy call path (source.lookup "properties")
  let values? ← memberValuesBy call path (source.lookup "additionalProperties")
  return assemble required properties? values?

/-- Translates the shape of a node by calls for the nodes below it, or for its reference. -/
def shapeBy (source : Entries Json) (path : Path) : Attempt Schema :=
  match source.lookup "$ref" with
  | some (.string text) => refer (.ofText text)
  | some _ => .malformed path .referenceNotString
  | none =>
      match source.lookup "type" with
      | some (.string "array") =>
          memberItemsBy call path (source.lookup "items")
      | some (.string "object") => objectBy call source path
      | some (.string name) =>
          match ScalarType.ofName? name with
          | some type => pure (.scalar type {})
          | none => .refuse path (.unknownType name)
      | some _ => .refuse path .typeNotString
      | none =>
          if source.has "enum" then .refuse path .enumWithoutType else .refuse path .noShape

/-- Translates a node by calls for what it takes from elsewhere. -/
def nodeBy (node : Json) (path : Path) : Attempt Schema :=
  match node with
  | .object source =>
      match Keyword.firstIn? source with
      | some keyword => .refuse path (.keyword keyword)
      | none =>
          shapeBy call refer source path >>= fun shape => .ofCheck path (shape.annotated source)
  | _ => .malformed path .notObject

end

variable {resolve : Reference → Path → Attempt Schema} {source : Entries Json} {path : Path}

theorem ofProperties_eq_propertiesBy (properties : Entries Json)
    : ofProperties resolve properties path = propertiesBy (ofNode resolve) path properties := by
  induction properties with
  | nil => rw [ofProperties, propertiesBy]
  | cons entry rest ih => rw [ofProperties_cons, propertiesBy, ih]

theorem ofObject_eq_objectBy
    : ofObject resolve source path = objectBy (ofNode resolve) source path := by
  have properties
      : propertiesOf resolve source path
        = memberPropertiesBy (ofNode resolve) path (source.lookup "properties") := by
    rw [propertiesOf_eq]
    cases source.lookup "properties" with
    | none => rfl
    | some value =>
        cases value with
        | object members => simp only [memberPropertiesBy, ofProperties_eq_propertiesBy]
        | null | bool _ | number _ | string _ | array _ => rfl
  have values
      : valuesOf resolve source path
        = memberValuesBy (ofNode resolve) path (source.lookup "additionalProperties") := by
    rw [valuesOf_eq]
    rcases source.lookup "additionalProperties" with _ | _ | _ | _ | _ | _ | _ <;> rfl
  rw [ofObject, objectBy, properties, values]

theorem ofShape_eq_shapeBy
    : ofShape resolve source path = shapeBy (ofNode resolve) (resolve · path) source path := by
  cases reference : source.lookup "$ref" with
  | some value => cases value <;> simp only [ofShape, shapeBy, reference]
  | none =>
      cases typed : source.lookup "type" with
      | none => simp only [ofShape, shapeBy, reference, typed]
      | some value =>
          cases value with
          | string name =>
              by_cases array : name = "array"
              · subst array
                rw [ofShape_array resolve path reference typed]
                simp only [shapeBy, reference, typed]
                rcases source.lookup "items" with _ | _ | _ | _ | _ | _ | _ <;> rfl
              · by_cases object : name = "object"
                · subst object
                  rw [ofShape_object resolve path reference typed, ofObject_eq_objectBy]
                  simp only [shapeBy, reference, typed]
                · rw [ofShape_scalar resolve path reference typed array object]
                  cases found : ScalarType.ofName? name <;>
                    simp only [shapeBy, reference, typed, found]
          | null | bool _ | number _ | array _ | object _ =>
              simp only [ofShape, shapeBy, reference, typed]

/-- The translation of a node calls itself for the nodes below, and resolves its reference. -/
theorem ofNode_eq_nodeBy (node : Json)
    : ofNode resolve node path = nodeBy (ofNode resolve) (resolve · path) node path := by
  cases node with
  | object source =>
      cases keyword : Keyword.firstIn? source with
      | some found =>
          rw [ofNode_of_keyword resolve path keyword]
          simp only [nodeBy, keyword]
      | none =>
          rw [ofNode_of_no_keyword resolve path keyword, ofShape_eq_shapeBy]
          simp only [nodeBy, keyword]
  | null | bool _ | number _ | string _ | array _ => rw [ofNode_of_not_object resolve path rfl]; rfl

-----------------------------------------------------------------------------------------
-- The calls that a node makes
-----------------------------------------------------------------------------------------

variable {call other : Json → Path → Attempt Schema}

theorem propertiesBy_congr {properties : Entries Json}
    (same
      : ∀ entry ∈ properties,
          call entry.2 (.property path entry.1) = other entry.2 (.property path entry.1))
    : propertiesBy call path properties = propertiesBy other path properties := by
  induction properties with
  | nil => rfl
  | cons entry rest ih =>
      rw [propertiesBy, propertiesBy, same entry (.head _),
        ih fun later member => same later (.tail _ member)]

/-- An object calls for the nodes that its translation goes on to. -/
theorem objectBy_congr (plain : Plain source)
    (typed : source.lookup "type" = some (.string "object"))
    (same
      : ∀ next, Descends ⟨.object source, path⟩ next
          → call next.node next.path = other next.node next.path)
    : objectBy call source path = objectBy other source path := by
  refine Attempt.bind_congr fun names read => ?_
  have object : ObjectNode source := ⟨plain, typed, readable_of_requiredNames read⟩
  have properties
      : memberPropertiesBy call path (source.lookup "properties")
        = memberPropertiesBy other path (source.lookup "properties") := by
    rcases found : source.lookup "properties" with _ | _ | _ | _ | _ | _ | members <;> try rfl
    refine congrArg (some <$> ·) (propertiesBy_congr fun entry member => ?_)
    exact same _ (.property object found member)
  rw [properties]
  refine Attempt.bind_congr fun properties? translated => ?_
  have values
      : memberValuesBy call path (source.lookup "additionalProperties")
        = memberValuesBy other path (source.lookup "additionalProperties") := by
    rcases found : source.lookup "additionalProperties" with _ | _ | _ | _ | _ | _ | members
      <;> try rfl
    refine congrArg (some <$> ·) (same _ (.values object ?_ found))
    intro value present
    rw [present] at translated
    cases value with
    | object _ => rfl
    | null | bool _ | number _ | string _ | array _ => cases translated
  rw [values]

/-- A node calls for the nodes that its translation goes on to, and for its reference. -/
theorem nodeBy_congr {refer referOther : Reference → Attempt Schema} {node : Json}
    (below
      : ∀ next, Descends ⟨node, path⟩ next → call next.node next.path = other next.node next.path)
    (behind
      : ∀ source reference, node = .object source → Refers source reference
          → refer reference = referOther reference)
    : nodeBy call refer node path = nodeBy other referOther node path := by
  cases node with
  | null | bool _ | number _ | string _ | array _ => rfl
  | object source =>
      cases keyword : Keyword.firstIn? source with
      | some found => simp only [nodeBy, keyword]
      | none =>
          suffices shapes : shapeBy call refer source path = shapeBy other referOther source path by
            simp only [nodeBy, keyword, shapes]
          cases reference : source.lookup "$ref" with
          | some value =>
              cases value with
              | string text =>
                  simp only [shapeBy, reference]
                  exact behind source _ rfl ⟨keyword, text, reference, rfl⟩
              | null | bool _ | number _ | array _ | object _ => simp only [shapeBy, reference]
          | none =>
              have plain : Plain source := ⟨keyword, reference⟩
              cases typed : source.lookup "type" with
              | none => simp only [shapeBy, reference, typed]
              | some value =>
                  cases value with
                  | null | bool _ | number _ | array _ | object _ =>
                      simp only [shapeBy, reference, typed]
                  | string name =>
                      by_cases array : name = "array"
                      · subst array
                        simp only [shapeBy, reference, typed]
                        rcases found : source.lookup "items" with _ | _ | _ | _ | _ | _ | items
                          <;> try rfl
                        simp only [memberItemsBy, below _ (.items ⟨plain, typed⟩ found)]
                      · by_cases object : name = "object"
                        · subst object
                          simp only [shapeBy, reference, typed]
                          exact objectBy_congr plain typed below
                        · simp only [shapeBy, reference, typed]

end Schema

-----------------------------------------------------------------------------------------
-- Moments of a translation
-----------------------------------------------------------------------------------------

/-- The translation at work: the place of the node that is translated, and the references that are
being resolved, the innermost first.
-/
structure Moment where
  trail : List Reference
  place : Place

namespace Document

open Schema

variable (doc : Document)

/-- What the translation has for a node at a moment. -/
def attemptOf (moment : Moment) : Attempt Schema :=
  ofNode (doc.resolve moment.trail) moment.place.node moment.place.path

/-- Resolves a reference by a call for the node behind it. -/
def referBy (call : Moment → Attempt Schema) (trail : List Reference) (path : Path)
    (reference : Reference) : Attempt Schema :=
  if reference.isLocal then
    if reference ∈ trail then .refuse path (.cyclic reference)
    else
      match doc.standIn? reference with
      | some node => call ⟨reference :: trail, ⟨node, path⟩⟩
      | none => .malformed path (doc.deadEnd reference)
  else pure .fallback

/-- Translates the node of a moment by calls for other moments. -/
def unfold (call : Moment → Attempt Schema) (moment : Moment) : Attempt Schema :=
  nodeBy (fun node path => call ⟨moment.trail, ⟨node, path⟩⟩)
    (doc.referBy call moment.trail moment.place.path) moment.place.node moment.place.path

/-- The translation of a node at a moment calls for itself at other moments. -/
theorem attemptOf_eq_unfold (moment : Moment)
    : doc.attemptOf moment = doc.unfold doc.attemptOf moment := by
  have refers (reference : Reference)
      : doc.resolve moment.trail reference moment.place.path
        = doc.referBy doc.attemptOf moment.trail moment.place.path reference := by
    cases inside : reference.isLocal with
    | false =>
        obtain ⟨text, rfl⟩ := Reference.eq_external_of_not_isLocal inside
        rw [resolve_external]
        rfl
    | true =>
        rw [resolve_local doc _ _ inside, referBy, if_pos inside]
        rfl
  rw [attemptOf, ofNode_eq_nodeBy, funext refers]
  rfl

/-- The translation at the first moment calls for the one at the second: for a node below, with the
same references being resolved, or for the node behind a reference that is not being resolved yet.
-/
inductive Calls : Moment → Moment → Prop
  | below {trail place next} (step : Descends place next)
    : Calls ⟨trail, place⟩ ⟨trail, next⟩
  | behind {trail source reference node path} (refers : Refers source reference)
    (fresh : reference ∉ trail) (found : doc.standIn? reference = some node)
    : Calls ⟨trail, ⟨.object source, path⟩⟩ ⟨reference :: trail, ⟨node, path⟩⟩

/-- What the translation has at a moment depends on nothing but what it calls for. -/
theorem unfold_congr {moment : Moment} {call other : Moment → Attempt Schema}
    (same : ∀ next, doc.Calls moment next → call next = other next)
    : doc.unfold call moment = doc.unfold other moment := by
  refine nodeBy_congr ?_ ?_
  · intro next step
    exact same ⟨moment.trail, next⟩ (.below step)
  · intro source reference object refers
    unfold referBy
    split
    · split
      · rfl
      · next fresh =>
          split
          · next node found =>
              obtain ⟨trail, ⟨_, path⟩⟩ := moment
              obtain rfl := object
              exact same _ (.behind refers fresh found)
          · rfl
    · rfl

-----------------------------------------------------------------------------------------
-- Each call is nearer to the end
-----------------------------------------------------------------------------------------

/-- A bound on the sizes of the nodes that stand behind references. -/
noncomputable def widest : Nat := ((doc.references.filterMap doc.standIn?).map sizeOf).sum

/-- A bound on how deep calls are nested from a moment on: the references that are not being
resolved count first, and then the size of the node.
-/
noncomputable def depth (moment : Moment) : Nat :=
  doc.unvisited moment.trail * (doc.widest + 1) + sizeOf moment.place.node

/-- A bound on how deep calls are nested in the translation of a component. -/
noncomputable def deepestCall (component : Component) : Nat :=
  doc.references.length * (doc.widest + 1) + sizeOf component.resource.inputProperties

variable {doc}

theorem sizeOf_standIn_le {reference : Reference} {node : Json}
    (found : doc.standIn? reference = some node)
    : sizeOf node ≤ doc.widest := by
  have listed : node ∈ doc.references.filterMap doc.standIn? :=
    List.mem_filterMap.mpr ⟨reference, mem_references_of_standIn? found, found⟩
  exact List.le_sum_of_mem (List.mem_map_of_mem listed)

/-- Every call is nearer to the end: it leaves fewer references, or as many and a smaller node. -/
theorem Calls.depth_lt {moment next : Moment} (call : doc.Calls moment next)
    : doc.depth next < doc.depth moment := by
  cases call with
  | below step => exact Nat.add_lt_add_left step.sizeOf_lt _
  | @behind trail source reference node path refers fresh found =>
      have fewer := unvisited_cons_lt (mem_references_of_standIn? found) fresh
      have narrow := sizeOf_standIn_le found
      -- The node may be larger, but by less than what one reference counts.
      calc doc.unvisited (reference :: trail) * (doc.widest + 1) + sizeOf node
          < (doc.unvisited (reference :: trail) + 1) * (doc.widest + 1) := by
            rw [Nat.add_mul, Nat.one_mul]
            omega
        _ ≤ doc.unvisited trail * (doc.widest + 1) := Nat.mul_le_mul_right _ fewer
        _ ≤ _ := Nat.le_add_right _ _

variable (doc) in
/-- The translation at a moment, unfolded as often as the budget allows; for the calls that are left
then, the given function stands in.
-/
def attemptWithin (beyond : Moment → Attempt Schema) : (budget : Nat) → Moment → Attempt Schema
  | 0 => beyond
  | budget + 1 => doc.unfold (attemptWithin beyond budget)

/-- With a budget above the bound nothing is left to stand in for. By induction on the budget: every
call needs less of it.
-/
theorem attemptWithin_eq (beyond : Moment → Attempt Schema) {budget : Nat} {moment : Moment}
    (enough : doc.depth moment < budget)
    : doc.attemptWithin beyond budget moment = doc.attemptOf moment := by
  induction budget generalizing moment with
  | zero => exact absurd enough (Nat.not_lt_zero _)
  | succ budget ih =>
      rw [attemptOf_eq_unfold, attemptWithin]
      refine unfold_congr doc fun next call => ih ?_
      exact Nat.lt_of_lt_of_le call.depth_lt (Nat.le_of_lt_succ enough)

-----------------------------------------------------------------------------------------
-- What is being resolved
-----------------------------------------------------------------------------------------

/-- The translation of a component gets to the moment. -/
def GetsTo (doc : Document) (component : Component) (moment : Moment) : Prop :=
  ∃ entry ∈ component.resource.inputProperties,
    ReflTransGen doc.Calls ⟨[], ⟨entry.2, .property .spec entry.1⟩⟩ moment

/-- Where the nodes of a moment begin: at an input property of the component, or, while references
are being resolved, at the type or the resource that the innermost of them leads to.
-/
inductive Begins (doc : Document) (component : Component) : List Reference → Place → Prop
  | input {entry} (member : entry ∈ component.resource.inputProperties)
    : Begins doc component [] ⟨entry.2, .property .spec entry.1⟩
  | type {token source path trail} (found : doc.type? token = some (.object source))
    : Begins doc component (.type token :: trail) ⟨.object source, path⟩
  | resource {token resource path trail} (found : doc.resource? token = some resource)
    : Begins doc component (.resource token :: trail) ⟨resource.node, path⟩

/-- What is true whenever the translation of a component is at work. -/
structure AtWork (doc : Document) (component : Component) (moment : Moment) : Prop where
  distinct : moment.trail.Nodup
  resolves
    : ∀ reference ∈ moment.trail,
        reference.isLocal ∧ ∃ target, doc.target? reference = some target
  within
    : ∃ start, doc.Begins component moment.trail start ∧ ReflTransGen Descends start moment.place

/-- The node behind a reference is the one of a type, or that of a resource. -/
theorem begins_of_standIn? {component : Component} {reference : Reference} {node : Json}
    (found : doc.standIn? reference = some node) (trail : List Reference) (path : Path)
    : doc.Begins component (reference :: trail) ⟨node, path⟩ := by
  unfold standIn? at found
  cases reference with
  | type token =>
      cases entry : doc.type? token with
      | none => simp [target?, entry] at found
      | some value =>
          cases value with
          | object source =>
              obtain rfl : Json.object source = node := by simpa [target?, entry] using found
              exact .type entry
          | null | bool _ | number _ | string _ | array _ => simp [target?, entry] at found
  | resource token =>
      cases entry : doc.resource? token with
      | none => simp [target?, entry] at found
      | some resource =>
          obtain rfl : resource.node = node := by simpa [target?, entry] using found
          exact .resource entry
  | external text => simp [target?] at found

theorem exists_target_of_standIn? {reference : Reference} {node : Json}
    (found : doc.standIn? reference = some node)
    : ∃ target, doc.target? reference = some target := by
  unfold standIn? at found
  split at found
  · exact ⟨_, ‹_›⟩
  · exact ⟨_, ‹_›⟩
  · cases found

/-- A call keeps what is true of a translation at work. -/
theorem AtWork.call {component : Component} {moment next : Moment}
    (work : doc.AtWork component moment) (call : doc.Calls moment next)
    : doc.AtWork component next := by
  cases call with
  | below step =>
      obtain ⟨start, begins, way⟩ := work.within
      exact ⟨work.distinct, work.resolves, start, begins, way.tail step⟩
  | @behind trail source reference node path refers fresh found =>
      refine ⟨List.nodup_cons.mpr ⟨fresh, work.distinct⟩, ?_, _, begins_of_standIn? found _ path,
        .refl⟩
      intro other member
      rcases List.mem_cons.mp member with rfl | earlier
      · exact ⟨isLocal_of_standIn? found, exists_target_of_standIn? found⟩
      · exact work.resolves other earlier

/-- Whatever the translation of a component gets to, by induction over the calls. -/
theorem GetsTo.atWork {component : Component} {moment : Moment}
    (reached : doc.GetsTo component moment)
    : doc.AtWork component moment := by
  obtain ⟨entry, member, way⟩ := reached
  induction way with
  | refl => exact ⟨.nil, nofun, _, .input member, .refl⟩
  | tail _ call ih => exact ih.call call

/-- References that are being resolved are no more than the document has entries. -/
theorem AtWork.length_le {component : Component} {moment : Moment}
    (work : doc.AtWork component moment)
    : moment.trail.length ≤ doc.types.length + doc.resources.length := by
  have known : moment.trail ⊆ doc.references := by
    intro reference member
    obtain ⟨_, target, found⟩ := work.resolves reference member
    exact mem_references_of_target? found
  simpa [references, Entries.names] using work.distinct.length_le_of_subset known

-----------------------------------------------------------------------------------------
-- The translation of a component ends
-----------------------------------------------------------------------------------------

/-- The translation of a component from what is known of its input properties. -/
def conclude (component : Component) (attempt : Attempt (Entries Schema))
    : Except TranslationError Translation :=
  match attempt.outcome with
  | .error (.unsupported refusal) => .error (.unsupported (refusal.unsupported component.token))
  | .error (.malformed path cause) => .error (.malformed component.token path cause)
  | .ok properties =>
      let skipped := SkipIssue.sorted (attempt.skipped.map (·.issue component.token))
      if properties.isEmpty && !skipped.isEmpty then
        .error (.nothingTranslatable component.token skipped)
      else
        let required := component.resource.normalizedRequired.filter (properties.has ·)
        .ok ⟨.object (some properties) none required {}, skipped⟩

/-- The translation of a component, unfolded as often as the budget allows. -/
def translateWithin (doc : Document) (beyond : Moment → Attempt Schema) (budget : Nat)
    (component : Component) : Except TranslationError Translation :=
  let call (node : Json) (path : Path) := doc.attemptWithin beyond budget ⟨[], ⟨node, path⟩⟩
  conclude component (propertiesBy call .spec component.resource.inputProperties)

/-- The translation of a component ends. Unfolded often enough it has its result, whatever stands in
for further calls. What it has at a moment depends on its calls only; a call keeps the references
that are being resolved and goes on to a smaller node below, or adds a reference that is not among
them and begins with the entry of the document that the reference leads to. At every moment these
references are distinct, stay inside the package and lead to something, so that there are at most
as many as the document has entries.
-/
structure TranslationEnds (doc : Document) (component : Component) : Prop where
  result
    : ∀ budget > doc.deepestCall component, ∀ beyond,
        doc.translateWithin beyond budget component = doc.translate component
  dependence
    : ∀ moment call other,
        (∀ next, doc.Calls moment next → call next = other next)
        → doc.unfold call moment = doc.unfold other moment
  descent
    : ∀ moment next,
        doc.Calls moment next
        → (next.trail = moment.trail ∧ Descends moment.place next.place
            ∧ sizeOf next.place.node < sizeOf moment.place.node)
          ∨ ∃ reference ∉ moment.trail,
              next.trail = reference :: moment.trail
              ∧ doc.Begins component next.trail next.place
  atWork : ∀ moment, doc.GetsTo component moment → doc.AtWork component moment
  bounded
    : ∀ moment, doc.GetsTo component moment
        → moment.trail.length ≤ doc.types.length + doc.resources.length

/-- The translation of every component ends. -/
theorem translationEnds (doc : Document) (component : Component)
    : doc.TranslationEnds component where
  result budget enough beyond := by
    refine congrArg (conclude component) ?_
    rw [ofProperties_eq_propertiesBy]
    refine propertiesBy_congr fun entry member => attemptWithin_eq beyond ?_
    refine Nat.lt_of_le_of_lt (Nat.add_le_add ?_ ?_) enough
    · exact Nat.mul_le_mul_right _ List.countP_le_length
    · obtain ⟨name, node⟩ := entry
      have smaller := List.sizeOf_lt_of_mem member
      rw [Prod.mk.sizeOf_spec] at smaller
      dsimp only
      omega
  dependence _ _ _ same := unfold_congr doc same
  descent moment next call := by
    cases call with
    | below step => exact .inl ⟨rfl, step, step.sizeOf_lt⟩
    | behind refers fresh found => exact .inr ⟨_, fresh, rfl, begins_of_standIn? found _ _⟩
  atWork _ reached := reached.atWork
  bounded _ reached := reached.atWork.length_le

end Document

end ComponentCrd
