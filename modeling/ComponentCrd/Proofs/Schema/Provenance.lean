import ComponentCrd.Proofs.Schema.Descent
import ComponentCrd.Proofs.Schema.IssueOrder

/-! The nodes that the translation of a component visits, through references as well, and where the
failures it meets come from: each is the fault of a visited node.
-/

namespace ComponentCrd

open Relation Schema

namespace Document

-----------------------------------------------------------------------------------------
-- Visited nodes and their faults
-----------------------------------------------------------------------------------------

/-- The translation goes on from a place to a node below it, or to the node that stands behind its
reference, which has the path of the reference.
-/
inductive Proceeds (doc : Document) : Place → Place → Prop
  | below {place next} (step : Descends place next) : doc.Proceeds place next
  | behind {source reference node path} (refers : Refers source reference)
    (found : doc.standIn? reference = some node)
    : doc.Proceeds ⟨.object source, path⟩ ⟨node, path⟩

/-- The translation of a component visits the place. -/
def Visits (doc : Document) (component : Component) (place : Place) : Prop :=
  ∃ entry ∈ component.resource.inputProperties,
    ReflTransGen doc.Proceeds ⟨entry.2, .property .spec entry.1⟩ place

/-- The failures that a place of a document is to blame for: its own faults, and a reference that
nothing stands behind or that is in the middle of being resolved.
-/
inductive Fault (doc : Document) : Place → Failure → Prop
  | own {place failure} (lies : Schema.Fault place failure) : doc.Fault place failure
  | cyclic {source reference path} (refers : Refers source reference) (inside : reference.isLocal)
    : doc.Fault ⟨.object source, path⟩ (.unsupported ⟨path, .cyclic reference⟩)
  | deadEnd {source reference path} (refers : Refers source reference)
    (inside : reference.isLocal) (missing : doc.standIn? reference = none)
    : doc.Fault ⟨.object source, path⟩ (.malformed path (doc.deadEnd reference))

variable {doc : Document} {failure : Failure}

/-- A failure that resolving a reference meets is the cycle that the reference closes, or one of the
node behind the reference, or that there is no such node.
-/
theorem meets_resolve {trail : List Reference} {reference : Reference} {path : Path}
    (met : (doc.resolve trail reference path).Meets failure)
    : reference.isLocal
      ∧ ((reference ∈ trail ∧ failure = .unsupported ⟨path, .cyclic reference⟩)
        ∨ (reference ∉ trail
          ∧ ∃ node, doc.standIn? reference = some node
            ∧ (ofNode (doc.resolve (reference :: trail)) node path).Meets failure)
        ∨ (doc.standIn? reference = none ∧ failure = .malformed path (doc.deadEnd reference))) := by
  revert met
  refine doc.resolve_cases trail reference path ?outside ?cyclic ?behind ?deadEnd
  case outside => exact fun _ met => (Attempt.not_meets_pure _ met).elim
  case cyclic =>
    intro inside onTrail met
    exact ⟨inside, .inl ⟨onTrail, Attempt.meets_fail.mp met⟩⟩
  case behind =>
    intro node fresh found met
    exact ⟨isLocal_of_standIn? found, .inr (.inl ⟨fresh, node, found, met⟩)⟩
  case deadEnd =>
    intro inside missing met
    exact ⟨inside, .inr (.inr ⟨missing, Attempt.meets_fail.mp met⟩)⟩

/-- Every failure that the translation of a node meets is the fault of a node it proceeds to, by
recursion over the references that are not on the trail yet.
-/
theorem fault_of_meets (trail : List Reference) (place : Place)
    (met : (ofNode (doc.resolve trail) place.node place.path).Meets failure)
    : ∃ origin, ReflTransGen doc.Proceeds place origin ∧ doc.Fault origin failure := by
  obtain ⟨⟨node, path⟩, way, blame⟩ := origin_of_meets place met
  have way : ReflTransGen doc.Proceeds place ⟨node, path⟩ := way.lift id fun _ _ => .below
  rcases blame with lies | ⟨source, reference, rfl, refers, met⟩
  · exact ⟨_, way, .own lies⟩
  obtain ⟨inside, ⟨_, rfl⟩ | ⟨fresh, node, found, met⟩ | ⟨missing, rfl⟩⟩ := meets_resolve met
  · exact ⟨_, way, .cyclic refers inside⟩
  · have := unvisited_cons_lt (mem_references_of_standIn? found) fresh
    obtain ⟨origin, further, fault⟩ := fault_of_meets (reference :: trail) ⟨node, path⟩ met
    exact ⟨origin, (way.tail (.behind refers found)).trans further, fault⟩
  · exact ⟨_, way, .deadEnd refers inside missing⟩
termination_by doc.unvisited trail

-----------------------------------------------------------------------------------------
-- The outcome of a translation
-----------------------------------------------------------------------------------------

/-- The attempt at the input properties of a component. -/
def attemptInputs (doc : Document) (component : Component) : Attempt (Entries Schema) :=
  ofProperties (doc.resolve []) component.resource.inputProperties .spec

/-- The issues that a translation reports, with a result or with the error that nothing is left. -/
def reported : Except TranslationError Translation → List SkipIssue
  | .ok translation => translation.skipped
  | .error error => error.skipped

/-- Every failure of the attempt is the fault of a visited place. -/
theorem visits_of_meets {component : Component}
    (met : (doc.attemptInputs component).Meets failure)
    : ∃ origin, doc.Visits component origin ∧ doc.Fault origin failure := by
  obtain ⟨entry, member, met⟩ := meets_ofProperties met
  obtain ⟨origin, way, fault⟩ := fault_of_meets [] ⟨entry.2, .property .spec entry.1⟩ met
  exact ⟨origin, ⟨entry, member, way⟩, fault⟩

/-- A reported issue is a refusal that the attempt passed over. -/
theorem refusal_of_reported {component : Component} {issue : SkipIssue}
    (member : issue ∈ reported (doc.translate component))
    : ∃ refusal ∈ (doc.attemptInputs component).skipped, refusal.issue component.token = issue := by
  unfold translate at member
  dsimp only at member
  split at member
  · cases member
  · cases member
  · split at member
    · exact List.mem_map.mp (mem_sortedDistinct.mp member)
    · exact List.mem_map.mp (mem_sortedDistinct.mp member)

/-- The issues of a component: one for each refusal that the attempt passed over, sorted. -/
def issues (doc : Document) (component : Component) : List SkipIssue :=
  SkipIssue.sorted ((doc.attemptInputs component).skipped.map (·.issue component.token))

/-- Where the attempt has a result, the component is translated to it, unless issues are all that is
left.
-/
theorem translate_of_inputs {component : Component} {kept : Entries Schema}
    (ok : (doc.attemptInputs component).outcome = .ok kept)
    : doc.translate component
      = if kept.isEmpty && !(doc.issues component).isEmpty then
          .error (.nothingTranslatable component.token (doc.issues component))
        else
          let required := component.resource.normalizedRequired.filter (kept.has ·)
          .ok ⟨.object (some kept) none required {}, doc.issues component⟩ := by
  unfold attemptInputs at ok
  simp only [translate, ok]
  rfl

/-- The attempt at a component that is not stopped has a result. -/
theorem inputs_of_translate {component : Component}
    (goesOn
      : (∃ translation, doc.translate component = .ok translation)
        ∨ ∃ token skipped, doc.translate component = .error (.nothingTranslatable token skipped))
    : ∃ kept, (doc.attemptInputs component).outcome = .ok kept := by
  cases outcome : (doc.attemptInputs component).outcome with
  | ok kept => exact ⟨kept, rfl⟩
  | error failure =>
      unfold attemptInputs at outcome
      cases failure <;> simp [translate, outcome] at goesOn

/-- What stops a translation is a failure of the attempt, unless nothing is left. -/
theorem translate_error {component : Component} {error : TranslationError}
    (fails : doc.translate component = .error error)
    : (∃ refusal, (doc.attemptInputs component).outcome = .error (.unsupported refusal)
        ∧ error = .unsupported (refusal.unsupported component.token))
      ∨ (∃ path cause, (doc.attemptInputs component).outcome = .error (.malformed path cause)
        ∧ error = .malformed component.token path cause)
      ∨ ∃ skipped, error = .nothingTranslatable component.token skipped := by
  unfold translate at fails
  dsimp only at fails
  split at fails
  · next refusal outcome => exact .inl ⟨refusal, outcome, (Except.error.inj fails).symm⟩
  · next path cause outcome =>
      exact .inr (.inl ⟨path, cause, outcome, (Except.error.inj fails).symm⟩)
  · split at fails
    · exact .inr (.inr ⟨_, (Except.error.inj fails).symm⟩)
    · cases fails

end Document

end ComponentCrd
