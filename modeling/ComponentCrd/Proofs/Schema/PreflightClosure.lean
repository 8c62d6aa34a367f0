import ComponentCrd.Proofs.Schema.PreflightParts

/-! What a passed check says about a document. The targets of references are visited once, so the
check sees only a part of what a component reaches; but the references that have passed lead to
nodes whose own references have passed or are being visited. At the end nothing is being visited,
and the references that have passed are closed under everything they lead to.
-/

namespace ComponentCrd.Document

open Preflight

-----------------------------------------------------------------------------------------
-- Well-formed nodes, and nodes that refer to known references only
-----------------------------------------------------------------------------------------

/-- The reference leads outside the package, to an object among its types, or to one of its
resources.
-/
def Resolves (doc : Document) : Reference → Prop
  | .type token => ∃ source, doc.type? token = some (.object source)
  | .resource token => ∃ resource, doc.resource? token = some resource
  | .external _ => True

/-- The members of a node have the shapes that a walk over the node relies on. -/
structure WellFormed (doc : Document) (source : Entries Json) : Prop where
  reference
    : ∀ value, source.lookup "$ref" = some value
        → ∃ text, value = .string text ∧ doc.Resolves (.ofText text)
  properties
    : ∀ value, source.lookup "properties" = some value
        → ∃ members, value = .object members ∧ ∀ entry ∈ members, entry.2.isObject
  items : ∀ value, source.lookup "items" = some value → value.isObject
  values : ∀ value, source.lookup "additionalProperties" = some value → value.isObject

theorem WellFormed.resolves {doc : Document} {source : Entries Json} {text : String}
    (wellFormed : doc.WellFormed source) (found : source.lookup "$ref" = some (.string text))
    : doc.Resolves (.ofText text) := by
  obtain ⟨_, same, resolves⟩ := wellFormed.reference _ found
  cases same
  exact resolves

/-- The node and every node below it are well-formed, and their references inside the package are
known. What a reference leads to does not count as below.
-/
inductive Covered (doc : Document) (known : Reference → Prop) : Json → Prop
  | object {source : Entries Json}
    (wellFormed : doc.WellFormed source)
    (reference
      : ∀ text, source.lookup "$ref" = some (.string text)
          → (Reference.ofText text).isLocal → known (.ofText text))
    (properties
      : ∀ members, source.lookup "properties" = some (.object members)
          → ∀ entry ∈ members, doc.Covered known entry.2)
    (items : ∀ value, source.lookup "items" = some value → doc.Covered known value)
    (values : ∀ value, source.lookup "additionalProperties" = some value → doc.Covered known value)
    : doc.Covered known (.object source)

/-- A covered node is an object. -/
theorem Covered.isObject {doc : Document} {known : Reference → Prop} {node : Json}
    (covered : doc.Covered known node)
    : node.isObject := by
  cases covered with
  | object => rfl

/-- The members of a covered node are well-formed. -/
theorem Covered.wellFormed {doc : Document} {known : Reference → Prop} {source : Entries Json}
    (covered : doc.Covered known (.object source))
    : doc.WellFormed source := by
  cases covered with
  | object wellFormed => exact wellFormed

/-- Knowing more references keeps a node covered, by induction over the nodes below it. -/
theorem Covered.mono {doc : Document} {known more : Reference → Prop} {node : Json}
    (covered : doc.Covered known node) (included : ∀ reference, known reference → more reference)
    : doc.Covered more node := by
  induction covered with
  | object wellFormed reference _ _ _ properties items values =>
      exact .object wellFormed (fun text found inside => included _ (reference text found inside))
        properties items values

/-- The reference leads to a type or a resource, and the nodes it leads to are covered. -/
def TargetCovered (doc : Document) (known : Reference → Prop) (reference : Reference) : Prop :=
  match doc.target? reference with
  | some (.type node) => doc.Covered known node
  | some (.resource resource) => ∀ entry ∈ resource.inputProperties, doc.Covered known entry.2
  | none => False

/-- Known references lead to nodes that refer to known references only. -/
def Closed (doc : Document) (known : Reference → Prop) : Prop :=
  ∀ reference, known reference → doc.TargetCovered known reference

/-- Knowing more references keeps a target covered. -/
theorem TargetCovered.mono {doc : Document} {known more : Reference → Prop} {reference : Reference}
    (covered : doc.TargetCovered known reference)
    (included : ∀ reference, known reference → more reference)
    : doc.TargetCovered more reference := by
  unfold TargetCovered at covered ⊢
  split
  · next found => simp only [found] at covered; exact covered.mono included
  · next found =>
      simp only [found] at covered
      exact fun entry member => (covered entry member).mono included
  · next found => simp only [found] at covered

-----------------------------------------------------------------------------------------
-- What a check ensures while some references are being visited
-----------------------------------------------------------------------------------------

/-- A reference that has passed or is being visited. -/
def Seen (visiting passed : List Reference) (reference : Reference) : Prop :=
  reference ∈ passed ∨ reference ∈ visiting

/-- The references that have passed lead to nodes that refer to seen references only. -/
def Settled (doc : Document) (visiting passed : List Reference) : Prop :=
  ∀ reference ∈ passed, doc.TargetCovered (Seen visiting passed) reference

/-- A check that passes only adds references, keeps the passed ones settled, and leaves a fact
about the references seen.
-/
def Ensures (doc : Document) (visiting : List Reference) (check : Check)
    (fact : (Reference → Prop) → Prop)
    : Prop :=
  ∀ before after, doc.Settled visiting before → check before = .ok after
    → before ⊆ after ∧ doc.Settled visiting after ∧ fact (Seen visiting after)

/-- A fact that stays true when more references are seen. -/
def Lasting (fact : (Reference → Prop) → Prop) : Prop :=
  ∀ known more, (∀ reference, known reference → more reference) → fact known → fact more

variable {doc : Document} {visiting : List Reference}

/-- More passed references are more seen references. -/
theorem Seen.mono {before after : List Reference} {reference : Reference}
    (seen : Seen visiting before reference) (included : before ⊆ after)
    : Seen visiting after reference :=
  seen.imp_left fun member => included member

theorem Ensures.pass {fact : (Reference → Prop) → Prop} (always : ∀ known, fact known)
    : doc.Ensures visiting Preflight.pass fact := by
  intro before after settled passes
  obtain rfl : before = after := Except.ok.inj passes
  exact ⟨List.Subset.refl _, settled, always _⟩

theorem Ensures.breach (fact : (Reference → Prop) → Prop) (path : Path) (violation : Violation)
    : doc.Ensures visiting (Preflight.breach path violation) fact :=
  fun _ _ _ passes => nomatch passes

theorem Ensures.imp {check : Check} {fact weaker : (Reference → Prop) → Prop}
    (ensures : doc.Ensures visiting check fact) (implies : ∀ known, fact known → weaker known)
    : doc.Ensures visiting check weaker := by
  intro before after settled passes
  obtain ⟨included, settled, holds⟩ := ensures before after settled passes
  exact ⟨included, settled, implies _ holds⟩

/-- One check after the other ensures both facts, if the first fact lasts. -/
theorem Ensures.both {first second : Check} {fact other : (Reference → Prop) → Prop}
    (lasting : Lasting fact) (ensuresFirst : doc.Ensures visiting first fact)
    (ensuresSecond : doc.Ensures visiting second other)
    : doc.Ensures visiting (Preflight.both first second)
        (fun known => fact known ∧ other known) := by
  intro before after settled passes
  cases passesFirst : first before with
  | error breach => simp [Preflight.both, passesFirst, bind, Except.bind] at passes
  | ok middle =>
      have passesSecond : second middle = .ok after := by
        simpa only [Preflight.both, passesFirst, bind, Except.bind] using passes
      obtain ⟨included, settled, holds⟩ := ensuresFirst before middle settled passesFirst
      obtain ⟨further, settled, holdsOther⟩ := ensuresSecond middle after settled passesSecond
      have kept := lasting _ _ (fun _ seen => seen.mono further) holds
      exact ⟨fun _ member => further (included member), settled, kept, holdsOther⟩

/-- What following a reference has to ensure. -/
def Follows (doc : Document) (visiting : List Reference) (follow : Reference → Path → Check)
    : Prop :=
  ∀ reference path,
    doc.Ensures visiting (follow reference path)
      (fun known => doc.Resolves reference ∧ (reference.isLocal → known reference))

-----------------------------------------------------------------------------------------
-- The walk over a node, and the walk along references
-----------------------------------------------------------------------------------------

/-- The part of a covered node that its reference accounts for. -/
def ReferenceSound (doc : Document) (source : Entries Json) (known : Reference → Prop) : Prop :=
  ∀ value, source.lookup "$ref" = some value
    → ∃ text, value = .string text ∧ doc.Resolves (.ofText text)
      ∧ ((Reference.ofText text).isLocal → known (.ofText text))

/-- The part of a covered node that its properties account for. -/
def PropertiesSound (doc : Document) (source : Entries Json) (known : Reference → Prop) : Prop :=
  ∀ value, source.lookup "properties" = some value
    → ∃ members, value = .object members
      ∧ ∀ entry ∈ members, entry.2.isObject ∧ doc.Covered known entry.2

/-- The part of a covered node that its items or its other values account for. -/
def ChildSound (doc : Document) (source : Entries Json) (name : String) (known : Reference → Prop)
    : Prop :=
  ∀ value, source.lookup name = some value → value.isObject ∧ doc.Covered known value

theorem covered_of_parts {source : Entries Json} {known : Reference → Prop}
    (reference : doc.ReferenceSound source known) (properties : doc.PropertiesSound source known)
    (items : doc.ChildSound source "items" known)
    (values : doc.ChildSound source "additionalProperties" known)
    : doc.Covered known (.object source) := by
  refine .object ⟨?_, ?_, fun _ found => (items _ found).1, fun _ found => (values _ found).1⟩
    ?_ ?_ (fun _ found => (items _ found).2) (fun _ found => (values _ found).2)
  · intro value found
    obtain ⟨text, rfl, resolves, _⟩ := reference value found
    exact ⟨text, rfl, resolves⟩
  · intro value found
    obtain ⟨members, rfl, sound⟩ := properties value found
    exact ⟨members, rfl, fun entry member => (sound entry member).1⟩
  · intro text found inside
    obtain ⟨same, eq, _, seen⟩ := reference _ found
    obtain rfl : text = same := Json.string.inj eq
    exact seen inside
  · intro members found entry member
    obtain ⟨same, eq, sound⟩ := properties _ found
    obtain rfl : members = same := Json.object.inj eq
    exact (sound entry member).2

theorem ReferenceSound.lasting (source : Entries Json)
    : Lasting (doc.ReferenceSound source) := by
  intro known more included sound value found
  obtain ⟨text, eq, resolves, seen⟩ := sound value found
  exact ⟨text, eq, resolves, fun inside => included _ (seen inside)⟩

theorem PropertiesSound.lasting (source : Entries Json)
    : Lasting (doc.PropertiesSound source) := by
  intro known more included sound value found
  obtain ⟨members, eq, sound⟩ := sound value found
  exact ⟨members, eq, fun entry member => (sound entry member).imp_right (·.mono included)⟩

theorem ChildSound.lasting (source : Entries Json) (name : String)
    : Lasting (doc.ChildSound source name) :=
  fun _ _ included sound value found => (sound value found).imp_right (·.mono included)

variable {follow : Reference → Path → Check}

theorem ensures_referencePart (follows : doc.Follows visiting follow) (source : Entries Json)
    (path : Path)
    : doc.Ensures visiting (referencePart follow source path) (doc.ReferenceSound source) := by
  unfold referencePart
  split
  · next missing => exact .pass fun _ value found => by simp [missing] at found
  · next text found =>
      refine (follows (.ofText text) path).imp fun known sound value same => ?_
      obtain rfl : .string text = value := Option.some.inj (found.symm.trans same)
      exact ⟨text, rfl, sound⟩
  · exact .breach _ _ _

mutual

/-- A node that passes is covered, by recursion over the nodes below it. -/
theorem ensures_node (follows : doc.Follows visiting follow) (value : Json) (path : Path)
    : doc.Ensures visiting (node follow value path) (doc.Covered · value) := by
  cases value with
  | object source =>
      rw [node_object]
      have properties
          : doc.Ensures visiting (propertiesPart follow source path)
              (doc.PropertiesSound source) := by
        unfold propertiesPart
        split
        · next missing => exact .pass fun _ value found => by simp [missing] at found
        · next members found =>
            have := Entries.sizeOf_members_lt found
            refine (ensures_properties follows members path).imp fun known sound value same => ?_
            obtain rfl : .object members = value := Option.some.inj (found.symm.trans same)
            exact ⟨members, rfl, sound⟩
        · exact .breach _ _ _
      have child (name : String) (path : Path) (violation : Violation)
          : doc.Ensures visiting (childPart follow source name path violation)
              (doc.ChildSound source name) := by
        unfold childPart
        split
        · next missing => exact .pass fun _ value found => by simp [missing] at found
        · next child found =>
            have := Entries.sizeOf_members_lt found
            have below := ensures_node follows (.object child) path
            refine below.imp fun known covered value same => ?_
            obtain rfl : .object child = value := Option.some.inj (found.symm.trans same)
            exact ⟨rfl, covered⟩
        · exact .breach _ _ _
      refine (Ensures.both (.lasting source) (ensures_referencePart follows source path)
        (.both (.lasting source) properties
          (.both (.lasting source "items") (child _ _ _) (child _ _ _)))).imp ?_
      rintro known ⟨reference, properties, items, values⟩
      exact covered_of_parts reference properties items values
  | null | bool _ | number _ | string _ | array _ =>
      rw [node_of_not_object follow path rfl]
      exact .breach _ _ _
termination_by sizeOf value

/-- Properties that pass are objects and covered, by recursion over their list. -/
theorem ensures_properties (follows : doc.Follows visiting follow) (members : Entries Json)
    (path : Path)
    : doc.Ensures visiting (properties follow members path)
        (fun known => ∀ entry ∈ members, entry.2.isObject ∧ doc.Covered known entry.2) := by
  cases members with
  | nil => rw [properties]; exact .pass fun _ _ member => nomatch member
  | cons entry rest =>
      obtain ⟨name, value⟩ := entry
      rw [properties_cons]
      have head
          : doc.Ensures visiting
              (if value.isObject then node follow value (.property path name)
                else breach (.property path name) .propertyNotObject)
              (fun known => value.isObject ∧ doc.Covered known value) := by
        split
        · next object =>
            exact (ensures_node follows value (.property path name)).imp fun _ => .intro object
        · exact .breach _ _ _
      refine (Ensures.both ?_ head (ensures_properties follows rest path)).imp ?_
      · exact fun _ _ included sound => sound.imp_right (·.mono included)
      · rintro known ⟨first, others⟩ entry (_ | ⟨_, member⟩)
        · exact first
        · exact others entry member
termination_by sizeOf members

end

/-- Input properties that pass are covered, by induction over their list. -/
theorem ensures_inputs (follows : doc.Follows visiting follow) (entries : Entries Json)
    (path : Path)
    : doc.Ensures visiting (inputs follow entries path)
        (fun known => ∀ entry ∈ entries, doc.Covered known entry.2) := by
  induction entries with
  | nil => exact .pass fun _ _ member => nomatch member
  | cons entry rest ih =>
      refine (Ensures.both ?_ (ensures_node follows entry.2 (.property path entry.1)) ih).imp ?_
      · exact fun _ _ included covered => covered.mono included
      · rintro known ⟨first, others⟩ entry (_ | ⟨_, member⟩)
        · exact first
        · exact others entry member

/-- A reference whose target passed while it was being visited may be added to the passed ones.
Witness: the same references are seen before and after.
-/
theorem Settled.leave {reference : Reference} {passed : List Reference}
    (settled : doc.Settled (reference :: visiting) passed)
    (covered : doc.TargetCovered (Seen (reference :: visiting) passed) reference)
    : doc.Settled visiting (reference :: passed) := by
  have same
      : ∀ r, Seen (reference :: visiting) passed r → Seen visiting (reference :: passed) r := by
    rintro r (member | (_ | ⟨_, member⟩))
    · exact .inl (.tail _ member)
    · exact .inl (.head _)
    · exact .inr member
  rintro r (_ | ⟨_, member⟩)
  · exact covered.mono same
  · exact (settled r member).mono same

/-- Visiting one more reference keeps the passed ones settled. -/
theorem Settled.enter {passed : List Reference} (settled : doc.Settled visiting passed)
    (reference : Reference)
    : doc.Settled (reference :: visiting) passed :=
  fun r member => (settled r member).mono fun _ seen => seen.imp_right (.tail _)

/-- A covered target is a target that the reference resolves to. -/
theorem TargetCovered.resolves {known : Reference → Prop} {reference : Reference}
    (covered : doc.TargetCovered known reference)
    : doc.Resolves reference := by
  cases reference with
  | type token =>
      cases found : doc.type? token with
      | none => simp [TargetCovered, target?, found] at covered
      | some value =>
          simp only [TargetCovered, target?, found, Option.map_some] at covered
          cases covered with
          | object => exact ⟨_, found⟩
  | resource token =>
      cases found : doc.resource? token with
      | none => simp [TargetCovered, target?, found] at covered
      | some resource => exact ⟨resource, found⟩
  | external text => trivial

/-- The check of a target ensures that it is covered, given what following ensures. -/
theorem ensures_targetPart (follows : doc.Follows visiting follow) (reference : Reference)
    (path : Path)
    : doc.Ensures visiting (doc.targetPart follow reference path)
        (doc.TargetCovered · reference) := by
  unfold targetPart TargetCovered
  cases doc.target? reference with
  | none => exact .breach _ _ _
  | some target =>
      cases target with
      | type value =>
          by_cases object : value.isObject
          · simpa only [object, if_true] using ensures_node follows value path
          · simp only [object]
            exact .breach _ _ _
      | resource resource => exact ensures_inputs follows resource.inputProperties path

/-- A reference that resolves inside the package is one of the document's references. -/
theorem Resolves.mem_references {reference : Reference} (resolves : doc.Resolves reference)
    (inside : reference.isLocal)
    : reference ∈ doc.references := by
  cases reference with
  | type token =>
      obtain ⟨source, found⟩ := resolves
      have target : doc.target? (.type token) = some (.type (.object source)) := by
        simp [target?, found]
      exact mem_references_of_target? target
  | resource token =>
      obtain ⟨resource, found⟩ := resolves
      have target : doc.target? (.resource token) = some (.resource resource) := by
        simp [target?, found]
      exact mem_references_of_target? target
  | external text => simp [Reference.isLocal] at inside

/-- The check of a target fails if the reference does not resolve to it. -/
theorem targetPart_of_not_resolves (follow : Reference → Path → Check) {reference : Reference}
    (path : Path) (fails : ¬ doc.Resolves reference)
    : ∃ violation, doc.targetPart follow reference path = breach path violation := by
  unfold targetPart
  cases reference with
  | type token =>
      cases found : doc.type? token with
      | none => exact ⟨_, by simp only [target?, found, Option.map_none]; rfl⟩
      | some value =>
          have scalar : value.isObject = false :=
            Json.isObject_eq_false fun source same => fails ⟨source, same ▸ found⟩
          exact ⟨_, by simp only [target?, found, Option.map_some, scalar]; rfl⟩
  | resource token =>
      cases found : doc.resource? token with
      | none => exact ⟨_, by simp only [target?, found, Option.map_none]; rfl⟩
      | some resource => exact (fails ⟨resource, found⟩).elim
  | external text => exact (fails trivial).elim

/-- Following a reference ensures that it resolves and is seen, by recursion over the references
that are not being visited yet.
-/
theorem follows_follow (doc : Document) (mode : Mode) (visiting : List Reference)
    (resolved : ∀ reference ∈ visiting, doc.Resolves reference)
    : doc.Follows visiting (doc.follow mode visiting) := by
  intro reference path
  cases inside : reference.isLocal with
  | false =>
      obtain ⟨text, rfl⟩ := Reference.eq_external_of_not_isLocal inside
      rw [follow_external]
      cases mode with
      | document => exact .breach _ _ _
      | component =>
          refine .pass fun _ => ⟨trivial, fun isLocal => ?_⟩
          cases isLocal
  | true =>
      intro before after settled passes
      rw [follow_local doc mode visiting path before inside] at passes
      split at passes
      · next seen =>
          obtain rfl : before = after := Except.ok.inj passes
          refine ⟨List.Subset.refl _, settled, ?_, fun _ => seen⟩
          exact seen.elim (fun member => (settled reference member).resolves) (resolved reference)
      · next fresh =>
          -- Only references that resolve are among those that can be left to visit.
          by_cases resolves : doc.Resolves reference
          · have := unvisited_cons_lt (resolves.mem_references inside) (fresh ∘ .inr)
            have within : ∀ next ∈ reference :: visiting, doc.Resolves next := by
              rintro next (_ | ⟨_, member⟩)
              · exact resolves
              · exact resolved next member
            have ensures := ensures_targetPart
              (follows_follow doc mode (reference :: visiting) within) reference path
            cases checked : doc.targetPart (doc.follow mode (reference :: visiting)) reference
                path before with
            | error breach => simp [checked, Except.map] at passes
            | ok passed =>
                obtain rfl : reference :: passed = after := by
                  simpa only [checked, Except.map, Except.ok.injEq] using passes
                obtain ⟨included, settled, covered⟩ :=
                  ensures before passed (settled.enter reference) checked
                exact ⟨fun _ member => .tail _ (included member), settled.leave covered, resolves,
                  fun _ => .inl (.head _)⟩
          · obtain ⟨violation, fails⟩ := targetPart_of_not_resolves
              (doc.follow mode (reference :: visiting)) path resolves
            simp [fails, Preflight.breach, Except.map] at passes
termination_by doc.unvisited visiting

-----------------------------------------------------------------------------------------
-- What a whole passed check leaves behind
-----------------------------------------------------------------------------------------

/-- A component passes only if there are references, closed under what they lead to, that cover
its input properties. Witness: the references that have passed at the end of the check.
-/
theorem preflight_closed {doc : Document} {component : Component}
    (passes : doc.preflight component = .ok ())
    : ∃ known,
        doc.Closed known
        ∧ ∀ entry ∈ component.resource.inputProperties, doc.Covered known entry.2 := by
  unfold preflight at passes
  split at passes
  · next passed checked =>
      obtain ⟨_, settled, covered⟩ :=
        ensures_inputs (follows_follow doc .component [] nofun) component.resource.inputProperties
          .spec [] passed nofun checked
      refine ⟨Seen [] passed, ?_, covered⟩
      rintro reference (member | impossible)
      · exact settled reference member
      · exact nomatch impossible
  · exact nomatch passes

end ComponentCrd.Document
