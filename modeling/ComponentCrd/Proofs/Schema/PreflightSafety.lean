import ComponentCrd.Proofs.Schema.Annotating
import ComponentCrd.Proofs.Schema.PreflightClosure
import ComponentCrd.Proofs.Schema.Provenance
import ComponentCrd.Proofs.Schema.Wording

/-! A component that passes the check of shapes is translated without meeting a malformed node. The
translation expands every reference again and builds nodes for resources, which the check never
does; but every node it visits is covered by the references that have passed.
-/

namespace ComponentCrd.Document

open Relation Schema

variable {doc : Document} {known : Reference → Prop}

-----------------------------------------------------------------------------------------
-- Visited nodes are covered
-----------------------------------------------------------------------------------------

/-- The node of a resource is covered where its input properties are. -/
theorem Covered.resource {resource : Resource}
    (covered : ∀ entry ∈ resource.inputProperties, doc.Covered known entry.2)
    : doc.Covered known resource.node := by
  obtain ⟨source, eq, reference, properties, items, values, _⟩ := resource.node_eq
  rw [eq]
  refine .object ⟨?_, ?_, ?_, ?_⟩ ?_ ?_ ?_ ?_
  · simp [reference]
  · intro value found
    obtain rfl := Option.some.inj (properties.symm.trans found)
    exact ⟨_, rfl, fun entry member => (covered entry member).isObject⟩
  · simp [items]
  · simp [values]
  · simp [reference]
  · intro members found
    obtain rfl := Json.object.inj (Option.some.inj (properties.symm.trans found))
    exact covered
  · simp [items]
  · simp [values]

/-- The node behind a known reference is covered. -/
theorem Closed.covered_standIn (closed : doc.Closed known) {reference : Reference} {node : Json}
    (isKnown : known reference) (found : doc.standIn? reference = some node)
    : doc.Covered known node := by
  have covered := closed reference isKnown
  unfold standIn? at found
  unfold TargetCovered at covered
  split at found
  · next target =>
      obtain rfl := Option.some.inj found
      simpa only [target] using covered
  · next target =>
      obtain rfl := Option.some.inj found
      exact .resource (by simpa only [target] using covered)
  · cases found

/-- A node stands behind every known reference. -/
theorem Closed.exists_standIn (closed : doc.Closed known) {reference : Reference}
    (isKnown : known reference)
    : ∃ node, doc.standIn? reference = some node := by
  have covered := closed reference isKnown
  unfold TargetCovered at covered
  unfold standIn?
  split at covered
  · next value target =>
      obtain ⟨source, rfl⟩ := Json.isObject_iff.mp covered.isObject
      exact ⟨_, by rw [target]⟩
  · next resource target => exact ⟨_, by rw [target]⟩
  · exact covered.elim

/-- The reference of a covered node is known, if it stays inside the package. -/
theorem Covered.knows {source : Entries Json} {reference : Reference}
    (covered : doc.Covered known (.object source)) (refers : Refers source reference)
    (inside : reference.isLocal)
    : known reference := by
  obtain ⟨_, text, found, rfl⟩ := refers
  cases covered with
  | object _ knows => exact knows text found inside

/-- The nodes below a covered node are covered. -/
theorem Covered.descends {place next : Place} (covered : doc.Covered known place.node)
    (step : Descends place next)
    : doc.Covered known next.node := by
  cases step with
  | items _ found => cases covered with
    | object _ _ _ items => exact items _ found
  | property _ found member => cases covered with
    | object _ _ properties => exact properties _ found _ member
  | values _ _ found => cases covered with
    | object _ _ _ _ values => exact values _ found

/-- Every place that a translation proceeds to from a covered node has a covered node, by induction
over the way there.
-/
theorem Covered.proceeds (closed : doc.Closed known) {place origin : Place}
    (covered : doc.Covered known place.node) (way : ReflTransGen doc.Proceeds place origin)
    : doc.Covered known origin.node := by
  induction way with
  | refl => exact covered
  | tail _ step ih =>
      cases step with
      | below step => exact ih.descends step
      | behind refers found =>
          refine closed.covered_standIn (ih.knows refers ?_) found
          exact isLocal_of_standIn? found

-----------------------------------------------------------------------------------------
-- Covered nodes have no malformed shape
-----------------------------------------------------------------------------------------

/-- A covered node is never to blame for a malformed shape. -/
theorem Covered.not_malformed (closed : doc.Closed known) {origin : Place} {path : Path}
    {cause : Malformation} (covered : doc.Covered known origin.node)
    : ¬ doc.Fault origin (.malformed path cause) := by
  intro fault
  cases fault with
  | own lies =>
      cases lies with
      | node scalar => exact nomatch covered.isObject.symm.trans scalar
      | reference _ found unreadable =>
          obtain ⟨text, rfl, _⟩ := covered.wellFormed.reference _ found
          cases unreadable
      | properties _ found scalar =>
          obtain ⟨members, rfl, _⟩ := covered.wellFormed.properties _ found
          cases scalar
  | deadEnd refers inside missing =>
      obtain ⟨node, found⟩ := closed.exists_standIn (covered.knows refers inside)
      exact nomatch missing.symm.trans found

/-- A covered node is never to blame for other values that are no object. -/
theorem Covered.not_valuesNotObject {origin : Place} {path : Path}
    (covered : doc.Covered known origin.node)
    : ¬ doc.Fault origin (.unsupported ⟨path, .valuesNotObject⟩) := by
  rintro ⟨lies⟩
  cases lies with
  | values _ found scalar => exact nomatch (covered.wellFormed.values _ found).symm.trans scalar
  | annotations _ refused => exact nomatch annotated_error refused

/-- A covered node that is to blame for its items is a list without any. -/
theorem Covered.bare_of_itemsNotObject {origin : Place} {path : Path}
    (covered : doc.Covered known origin.node)
    (fault : doc.Fault origin (.unsupported ⟨path, .itemsNotObject⟩))
    : ∃ source, origin = ⟨.object source, path⟩ ∧ ListNode source
        ∧ source.lookup "items" = none := by
  obtain ⟨lies⟩ := fault
  cases lies with
  | items list missing =>
      refine ⟨_, rfl, list, ?_⟩
      cases found : List.lookup "items" _ with
      | none => rfl
      | some value =>
          obtain ⟨items, rfl⟩ := Json.isObject_iff.mp (covered.wellFormed.items _ found)
          exact (missing items found).elim
  | annotations _ refused => exact nomatch annotated_error refused

-----------------------------------------------------------------------------------------
-- Translations after a passed check
-----------------------------------------------------------------------------------------

/-- No malformed node stops the translation of the component, and what it reports is never due to
a malformed member: the only failures are constructs that stop a translation, and that nothing is
left.
-/
structure ShapeSafe (doc : Document) (component : Component) : Prop where
  neverMalformed
    : ∀ token path cause, doc.translate component ≠ .error (.malformed token path cause)
  valuesSound
    : ∀ issue ∈ reported (doc.translate component),
        issue.reason ≠ "additionalProperties must be an object schema"
  itemsMissing
    : ∀ issue ∈ reported (doc.translate component),
        issue.reason = "array items must be an object schema"
        → ∃ source path,
            doc.Visits component ⟨.object source, path⟩
            ∧ issue.path = path.text
            ∧ ListNode source
            ∧ source.lookup "items" = none
  failures
    : ∀ error, doc.translate component = .error error
        → (∃ construct, error = .unsupported construct ∧ construct.severity = .hard)
          ∨ ∃ skipped, error = .nothingTranslatable component.token skipped

/-- A component that passes the check of shapes is safe from malformed shapes. Witness: every place
that the translation visits has a covered node, and every failure is the fault of a visited place.
-/
theorem shapeSafe_of_preflight {doc : Document} {component : Component}
    (passes : doc.preflight component = .ok ())
    : doc.ShapeSafe component := by
  obtain ⟨known, closed, covered⟩ := preflight_closed passes
  have visited {origin : Place} (visits : doc.Visits component origin)
      : doc.Covered known origin.node := by
    obtain ⟨entry, member, way⟩ := visits
    exact Covered.proceeds closed (covered entry member) way
  have notMalformed {path cause}
      : (doc.attemptInputs component).outcome ≠ .error (.malformed path cause) := by
    intro outcome
    obtain ⟨origin, visits, fault⟩ := visits_of_meets (.inl outcome)
    exact (visited visits).not_malformed closed fault
  have blamed {issue : SkipIssue} (member : issue ∈ reported (doc.translate component))
      : ∃ refusal origin, refusal.issue component.token = issue
          ∧ doc.Visits component origin ∧ doc.Fault origin (.unsupported refusal) := by
    obtain ⟨refusal, member, same⟩ := refusal_of_reported member
    obtain ⟨origin, visits, fault⟩ := visits_of_meets (.inr ⟨refusal, member, rfl⟩)
    exact ⟨refusal, origin, same, visits, fault⟩
  constructor
  · intro token path cause fails
    rcases translate_error fails with ⟨_, _, eq⟩ | ⟨path, cause, outcome, _⟩ | ⟨_, eq⟩
    · cases eq
    · exact notMalformed outcome
    · cases eq
  · intro issue member same
    obtain ⟨⟨path, cause⟩, origin, rfl, visits, fault⟩ := blamed member
    obtain rfl := Rejection.summary_eq_valuesNotObject same
    exact (visited visits).not_valuesNotObject fault
  · intro issue member same
    obtain ⟨⟨path, cause⟩, origin, rfl, visits, fault⟩ := blamed member
    obtain rfl := Rejection.summary_eq_itemsNotObject same
    obtain ⟨source, rfl, list, missing⟩ := (visited visits).bare_of_itemsNotObject fault
    exact ⟨source, path, visits, rfl, list, missing⟩
  · intro error fails
    rcases translate_error fails with ⟨refusal, outcome, eq⟩ | ⟨path, cause, outcome, _⟩ | nothing
    · exact .inl ⟨_, eq, stops_of_ofProperties outcome⟩
    · exact (notMalformed outcome).elim
    · exact .inr nothing

/-- A document with a resource whose input is of a type of the document. -/
def linkedDocument : Document where
  resources := [("p:i:Store", {
    inputProperties := [("link", .object [("$ref", .string "#/types/p:i:Link")])]
    requiredInputs := ["link"] })]
  types := [("p:i:Link", .object [
    ("properties", .object [("name", .object [("type", .string "string")])]),
    ("type", .string "object")])]

/-- A component with a list that has no items, and with references of both kinds. -/
def linkedComponent : Component where
  token := "p:i:Thing"
  resource := {
    isComponent := true
    inputProperties := [
      ("bare", .object [("type", .string "array")]),
      ("link", .object [("$ref", .string "#/types/p:i:Link")]),
      ("store", .object [("$ref", .string "#/resources/p:i:Store")])] }

/-- A list without items and shared references pass the check. -/
theorem linkedComponent_passes : linkedDocument.preflight linkedComponent = .ok () := by
  have ok : (linkedDocument.preflight linkedComponent).isOk := by decide +kernel
  obtain ⟨_, passes⟩ := Except.exists_of_isOk ok
  exact passes

/-- They are safe. -/
theorem linkedComponent_shapeSafe
    : linkedDocument.preflight linkedComponent = .ok ()
      ∧ linkedDocument.ShapeSafe linkedComponent :=
  ⟨linkedComponent_passes, shapeSafe_of_preflight linkedComponent_passes⟩

end ComponentCrd.Document
