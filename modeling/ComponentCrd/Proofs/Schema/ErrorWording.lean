import ComponentCrd.Proofs.Schema.CyclicReferences
import ComponentCrd.Proofs.Schema.LostProperties
import ComponentCrd.Proofs.Schema.PreflightExactness
import ComponentCrd.Proofs.Text.Unbroken

/-! What the check and the translation of a component fail with is worded on one line, if the token
of the component is, and the paths that it reaches and the references that stand there are. Nothing
else of a document gets into an error as it is.
-/

namespace ComponentCrd

open Relation

-----------------------------------------------------------------------------------------
-- References and places
-----------------------------------------------------------------------------------------

namespace Reference

theorem eq_append_of_after? {mark text token : String} (found : after? mark text = some token)
    : mark ++ token = text := by
  unfold after? at found
  split at found
  · next begins =>
      obtain rfl := Option.some.inj found
      obtain ⟨rest, same⟩ := List.isPrefixOf_iff_prefix.mp begins
      rw [← String.toList_inj, String.toList_append, String.toList_ofList, ← same]
      simp
  · cases found

/-- A reference has the text that it was read from. -/
theorem text_ofText (text : String) : (ofText text).text = text := by
  unfold ofText
  split
  · next token found => exact eq_append_of_after? found
  · split
    · next token found => exact eq_append_of_after? found
    · rfl

end Reference

/-- The path of the place and the reference that stands there stay on one line. -/
structure Place.OnOneLine (place : Place) : Prop where
  path : Unbroken place.path.text
  reference
    : ∀ source text, place.node = .object source → source.lookup "$ref" = some (.string text)
        → Unbroken text

/-- The reference that stands at a place is named with its text. -/
theorem Place.OnOneLine.text {source : Entries Json} {path : Path} {text : String}
    {reference : Reference} (unbroken : Place.OnOneLine ⟨.object source, path⟩)
    (found : source.lookup "$ref" = some (.string text))
    (refers : Reference.ofText text = reference)
    : Unbroken reference.text := by
  rw [← refers, Reference.text_ofText]
  exact unbroken.reference source text rfl found

-----------------------------------------------------------------------------------------
-- Causes
-----------------------------------------------------------------------------------------

/-- The reference that a violation is worded with, if there is one. -/
def Preflight.Violation.reference? : Preflight.Violation → Option Reference
  | .unresolvedType reference => some reference
  | .unresolvedResource reference => some reference
  | .typeNotObject reference => some reference
  | .outsideReference reference => some reference
  | _ => none

theorem Preflight.Violation.unbroken_cause {violation : Preflight.Violation}
    (named : ∀ reference, violation.reference? = some reference → Unbroken reference.text)
    : Unbroken violation.cause := by
  cases violation with
  | notObject | referenceNotString | propertiesNotObject | propertyNotObject | itemsNotObject
  | valuesNotObject => decide +kernel
  | unresolvedType reference | unresolvedResource reference | typeNotObject reference
  | outsideReference reference =>
      exact (Unbroken.append (by decide +kernel) (named reference rfl)).append (by decide +kernel)

/-- The reference that a malformation is worded with, if there is one. -/
def Malformation.reference? : Malformation → Option Reference
  | .unresolvedType reference => some reference
  | .unresolvedResource reference => some reference
  | .typeNotObject reference => some reference
  | _ => none

theorem Malformation.unbroken_cause {malformation : Malformation}
    (named : ∀ reference, malformation.reference? = some reference → Unbroken reference.text)
    : Unbroken malformation.cause := by
  cases malformation with
  | notObject | referenceNotString | propertiesNotObject => decide +kernel
  | unresolvedType reference | unresolvedResource reference | typeNotObject reference =>
      exact (Unbroken.append (by decide +kernel) (named reference rfl)).append (by decide +kernel)

/-- A reference that leads nowhere is named. -/
theorem Document.reference?_deadEnd (doc : Document) (reference : Reference)
    : (doc.deadEnd reference).reference? = some reference := by
  unfold deadEnd
  split <;> rfl

/-- A rejection that stops the translation is worded with a reference or with a value, and the value
is written on one line.
-/
theorem Rejection.unbroken_summary {rejection : Rejection} (stops : rejection.severity = .hard)
    (named : ∀ reference, rejection = .cyclic reference → Unbroken reference.text)
    : Unbroken rejection.summary := by
  cases rejection with
  | cyclic reference =>
      exact (Unbroken.append (by decide +kernel) (named reference rfl)).append (by decide)
  | enumMismatch value type =>
      have type : Unbroken type.name := by cases type <;> decide
      have value : Unbroken ("enum value " ++ value.compact) :=
        .append (by decide) (unbroken_compact value)
      exact ((value.append (by decide +kernel)).append type).append (by decide)
  | keyword _ | typeNotString | unknownType _ | enumWithoutType | noShape | itemsNotObject
  | requiredNotNames | valuesNotObject | descriptionNotString | enumNotList
  | enumEntryWithoutValue | enumEntryIsList => cases stops

namespace Document

variable {doc : Document} {component : Component}

-----------------------------------------------------------------------------------------
-- Visited places
-----------------------------------------------------------------------------------------

/-- The place is one that the component reaches, or the node that stands in for a resource, at the
path of a reference to it that the component reaches.
-/
inductive Stands (doc : Document) (component : Component) : Place → Prop
  | reached {place} (reached : doc.Reaches component place) : doc.Stands component place
  | behind {source text token resource path}
    (reached : doc.Reaches component ⟨.object source, path⟩)
    (found : source.lookup "$ref" = some (.string text))
    (refers : Reference.ofText text = .resource token)
    (target : doc.resource? token = some resource)
    : doc.Stands component ⟨resource.node, path⟩

/-- Behind a reference stands the type that it leads to, or the node of the resource. -/
theorem Reaches.behind {source : Entries Json} {path : Path} {text : String} {node : Json}
    (reached : doc.Reaches component ⟨.object source, path⟩)
    (own : source.lookup "$ref" = some (.string text))
    (found : doc.standIn? (.ofText text) = some node)
    : doc.Stands component ⟨node, path⟩ := by
  cases refers : Reference.ofText text with
  | external outer =>
      rw [refers] at found
      cases isLocal_of_standIn? found
  | type token =>
      rw [refers] at found
      cases target : doc.type? token with
      | none => simp [standIn?, target?, target] at found
      | some value =>
          have step : doc.Leads ⟨.object source, path⟩ ⟨value, path⟩ := .type own refers target
          have next := closedUnderLeads_reaches doc component _ _ reached step
          cases value with
          | object members =>
              simp only [standIn?, target?, target, Option.map_some, Option.some.injEq] at found
              exact .reached (found ▸ next)
          | null | bool _ | number _ | string _ | array _ =>
              simp [standIn?, target?, target] at found
  | resource token =>
      rw [refers] at found
      cases target : doc.resource? token with
      | none => simp [standIn?, target?, target] at found
      | some resource =>
          simp only [standIn?, target?, target, Option.map_some, Option.some.injEq] at found
          exact found ▸ .behind reached own refers target

/-- The translation goes on from such places to such places: the node of a resource has no
reference, and leads on as the reference to the resource does.
-/
theorem Stands.proceeds {place next : Place} (stands : doc.Stands component place)
    (step : doc.Proceeds place next)
    : doc.Stands component next := by
  have leads {place next : Place} (reached : doc.Reaches component place)
      (step : doc.Leads place next)
      : doc.Stands component next :=
    .reached (closedUnderLeads_reaches doc component place next reached step)
  cases stands with
  | reached reached =>
      cases step with
      | below step =>
          cases step with
          | items _ found => exact leads reached (.items found)
          | property _ found member => exact leads reached (.property found member)
          | values _ _ found => exact leads reached (.values found)
      | behind refers found =>
          obtain ⟨_, text, own, rfl⟩ := refers
          exact reached.behind own found
  | @behind _ _ _ resource _ reached found refers target =>
      obtain ⟨source, eq, none, properties, items, values, _⟩ := resource.node_eq
      generalize resource.node = node at step eq
      subst eq
      cases step with
      | below step =>
          cases step with
          | items _ inside => cases items.symm.trans inside
          | values _ _ inside => cases values.symm.trans inside
          | property _ inside member =>
              obtain rfl := Json.object.inj (Option.some.inj (properties.symm.trans inside))
              exact leads reached (.resource found refers target member)
      | behind other _ =>
          obtain ⟨_, text, own, _⟩ := other
          cases none.symm.trans own

theorem stands_of_visits {place : Place} (visits : doc.Visits component place)
    : doc.Stands component place := by
  obtain ⟨entry, member, way⟩ := visits
  induction way with
  | refl => exact .reached ⟨entry, member, .refl⟩
  | tail _ step ih => exact ih.proceeds step

-----------------------------------------------------------------------------------------
-- Errors
-----------------------------------------------------------------------------------------

variable (unbroken : ∀ place, doc.Reaches component place → place.OnOneLine)

include unbroken

theorem unbroken_of_visits {place : Place} (visits : doc.Visits component place)
    : place.OnOneLine := by
  cases stands_of_visits visits with
  | reached reached => exact unbroken place reached
  | @behind _ _ _ resource path reached _ _ _ =>
      refine ⟨(unbroken _ reached).path, ?_⟩
      intro source text same found
      obtain ⟨own, eq, none, _⟩ := resource.node_eq
      obtain rfl := Json.object.inj (same.symm.trans eq)
      cases none.symm.trans found

/-- A flaw is reported at the path of a place, and names the reference that stands there. -/
theorem unbroken_of_flaw {place : Place} {mode : Preflight.Mode} {breach : Preflight.Breach}
    (reached : doc.Reaches component place) (flaw : doc.Flaw mode place breach)
    : Unbroken breach.path.text ∧ Unbroken breach.violation.cause := by
  have here := unbroken place reached
  have below {next : Place} (step : doc.Leads place next) : Unbroken next.path.text :=
    (unbroken next (closedUnderLeads_reaches doc component place next reached step)).path
  have plain {violation : Preflight.Violation} (none : violation.reference? = none)
      : Unbroken violation.cause :=
    violation.unbroken_cause fun _ some => by cases none.symm.trans some
  cases flaw with
  | node _ | reference _ _ | properties _ _ => exact ⟨here.path, plain rfl⟩
  | property found member _ => exact ⟨below (.property found member), plain rfl⟩
  | items _ _ => exact ⟨here.path.append (by decide), plain rfl⟩
  | values _ _ => exact ⟨here.path.append (by decide), plain rfl⟩
  | unresolvedType found refers _ | unresolvedResource found refers _
  | typeNotObject found refers _ _ | outside _ found refers =>
      refine ⟨here.path, Preflight.Violation.unbroken_cause fun reference same => ?_⟩
      obtain rfl := Option.some.inj same
      exact here.text found refers

/-- A component that does not pass the check is refused on one line. -/
theorem unbroken_preflightError {error : PreflightError}
    (named : Unbroken component.token) (fails : doc.preflight component = .error error)
    : Unbroken error.message := by
  obtain ⟨token, place, reached, flaw⟩ := flaw_of_preflight_error fails
  obtain ⟨path, cause⟩ := unbroken_of_flaw unbroken reached flaw
  have named : Unbroken ("schema preflight component \"" ++ error.component) :=
    .append (by decide +kernel) (token ▸ named)
  exact (((named.append (by decide)).append path).append (by decide)).append cause

/-- A construct that stops the translation is one of a visited place: only the path of the place,
a value, and the reference that stands there get into its wording.
-/
theorem unbroken_of_stops {place : Place} {refusal : Refusal}
    (visits : doc.Visits component place) (fault : doc.Fault place (.unsupported refusal))
    (stops : refusal.cause.severity = .hard)
    : Unbroken refusal.path.text ∧ Unbroken refusal.cause.summary := by
  have here := unbroken_of_visits unbroken visits
  have path : refusal.path = place.path := fault.path_eq
  refine ⟨path ▸ here.path, Rejection.unbroken_summary stops fun reference same => ?_⟩
  obtain ⟨path, cause⟩ := refusal
  obtain rfl := same
  cases fault with
  | cyclic refers _ =>
      obtain ⟨_, text, found, refers⟩ := refers
      exact here.text found refers
  | own lies => exact (not_cyclic_of_fault lies).elim

/-- A malformed node is reported at the path of a visited place. If nothing stands behind the
reference there, the reference is named.
-/
theorem unbroken_of_malformed {place : Place} {path : Path} {cause : Malformation}
    (visits : doc.Visits component place) (fault : doc.Fault place (.malformed path cause))
    : Unbroken path.text ∧ Unbroken cause.cause := by
  have here := unbroken_of_visits unbroken visits
  have plain {malformation : Malformation} (none : malformation.reference? = none)
      : Unbroken malformation.cause :=
    malformation.unbroken_cause fun _ some => by cases none.symm.trans some
  cases fault with
  | own lies => cases lies <;> exact ⟨here.path, plain rfl⟩
  | @deadEnd _ reference _ refers _ _ =>
      obtain ⟨_, text, found, refers⟩ := refers
      refine ⟨here.path, Malformation.unbroken_cause fun other same => ?_⟩
      obtain rfl := Option.some.inj ((doc.reference?_deadEnd reference).symm.trans same)
      exact here.text found refers

/-- A component that cannot be translated is refused on one line. -/
theorem unbroken_translationError {error : TranslationError}
    (named : Unbroken component.token)
    (fails : doc.translate component = .error error)
    : Unbroken error.message := by
  rcases translate_error fails with ⟨refusal, outcome, rfl⟩ | ⟨path, cause, outcome, rfl⟩ | ⟨_, rfl⟩
  · obtain ⟨origin, visits, fault⟩ := visits_of_meets (.inl outcome)
    obtain ⟨path, summary⟩ :=
      unbroken_of_stops unbroken visits fault (Schema.stops_of_ofProperties outcome)
    have named : Unbroken ("unsupported schema component \"" ++ component.token) :=
      .append (by decide +kernel) named
    exact (((named.append (by decide)).append path).append (by decide)).append summary
  · obtain ⟨origin, visits, fault⟩ := visits_of_meets (.inl outcome)
    obtain ⟨path, cause⟩ := unbroken_of_malformed unbroken visits fault
    have named : Unbroken ("schema component \"" ++ component.token) :=
      .append (by decide +kernel) named
    exact (((named.append (by decide)).append path).append (by decide)).append cause
  · exact (Unbroken.append (by decide +kernel) named).append (by decide)

end Document

-----------------------------------------------------------------------------------------
-- Documents without line breaks
-----------------------------------------------------------------------------------------

mutual

/-- No member of a node has a line break in its name or its text, nor has one of the nodes below. -/
def Json.isUnbroken : Json → Bool
  | .string text => decide (Unbroken text)
  | .object members => Json.areUnbroken members
  | _ => true

def Json.areUnbroken : Entries Json → Bool
  | [] => true
  | entry :: rest => decide (Unbroken entry.1) && entry.2.isUnbroken && Json.areUnbroken rest

end

theorem Json.areUnbroken_iff {members : Entries Json}
    : Json.areUnbroken members
      ↔ ∀ entry ∈ members, Unbroken entry.1 ∧ entry.2.isUnbroken := by
  induction members with
  | nil => simp [Json.areUnbroken]
  | cons entry rest ih => simp [Json.areUnbroken, ih, and_assoc]

/-- A member of a node without line breaks has none. -/
theorem Json.isUnbroken_of_lookup {source : Entries Json} {name : String} {value : Json}
    (unbroken : (Json.object source).isUnbroken) (found : source.lookup name = some value)
    : value.isUnbroken :=
  (Json.areUnbroken_iff.mp (by rwa [Json.isUnbroken] at unbroken) _
    (Entries.mem_of_lookup found)).2

/-- The path of the place and the node have no line breaks. -/
def Place.IsPlain (place : Place) : Prop :=
  Unbroken place.path.text ∧ place.node.isUnbroken

namespace Document

/-- No schema node of the document has a line break in the names and texts of its members. -/
def isUnbroken (doc : Document) : Bool :=
  doc.resources.all (fun entry => Json.areUnbroken entry.2.inputProperties)
    && Json.areUnbroken doc.types

variable {doc : Document} {component : Component}

/-- What the inputs of a component lead to is where every step from them leads. -/
theorem within_of_reaches {within : Place → Prop} (closed : doc.ClosedUnderLeads within)
    (inputs : ∀ entry ∈ component.resource.inputProperties,
      within ⟨entry.2, .property .spec entry.1⟩)
    {place : Place} (reaches : doc.Reaches component place)
    : within place := by
  obtain ⟨entry, member, way⟩ := reaches
  induction way with
  | refl => exact inputs entry member
  | tail _ step ih => exact closed _ _ ih step

/-- Without line breaks in the document, none come up on the way through it. -/
theorem closedUnderLeads_isPlain (unbroken : doc.isUnbroken)
    : doc.ClosedUnderLeads Place.IsPlain := by
  obtain ⟨resources, types⟩ := Bool.and_eq_true_iff.mp unbroken
  rintro place next ⟨path, node⟩ step
  cases step with
  | property found member =>
      have members := Json.isUnbroken_of_lookup node found
      rw [Json.isUnbroken] at members
      obtain ⟨named, value⟩ := Json.areUnbroken_iff.mp members _ member
      exact ⟨(path.append (by decide)).append named, value⟩
  | items found => exact ⟨path.append (by decide), Json.isUnbroken_of_lookup node found⟩
  | values found => exact ⟨path.append (by decide), Json.isUnbroken_of_lookup node found⟩
  | type _ _ target =>
      exact ⟨path, (Json.areUnbroken_iff.mp types _ (Entries.mem_of_lookup target)).2⟩
  | resource _ _ target member =>
      have inputs := List.all_eq_true.mp resources _ (Entries.mem_of_lookup target)
      obtain ⟨named, value⟩ := Json.areUnbroken_iff.mp inputs _ member
      exact ⟨(path.append (by decide)).append named, value⟩

/-- Without line breaks in a document, its components reach none. -/
theorem unbroken_of_reaches (unbroken : doc.isUnbroken) (member : component ∈ doc.components)
    {place : Place} (reaches : doc.Reaches component place)
    : place.OnOneLine := by
  obtain ⟨entry, found, rfl⟩ := List.mem_map.mp member
  have resources := (Bool.and_eq_true_iff.mp unbroken).1
  have inputs := List.all_eq_true.mp resources entry (List.mem_filter.mp found).1
  have plain : place.IsPlain := by
    refine within_of_reaches (closedUnderLeads_isPlain unbroken) (fun input inside => ?_) reaches
    obtain ⟨named, value⟩ := Json.areUnbroken_iff.mp inputs input inside
    exact ⟨.append (by decide) named, value⟩
  refine ⟨plain.1, fun source text same found => ?_⟩
  have node := same ▸ plain.2
  simpa [Json.isUnbroken] using Json.isUnbroken_of_lookup node found

end Document

end ComponentCrd
