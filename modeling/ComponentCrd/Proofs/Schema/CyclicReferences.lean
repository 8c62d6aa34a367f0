import ComponentCrd.Proofs.Schema.Annotating
import ComponentCrd.Proofs.Schema.Provenance
import ComponentCrd.Proofs.Schema.Wording

/-! The translation is refused for a cycle exactly where a reference leads back to itself. The graph
of references is the one of the document: which references the node behind a reference mentions does
not depend on the references that are being resolved, on the order of the properties, or on what is
passed over elsewhere.
-/

namespace ComponentCrd.Document

open Relation Schema

-----------------------------------------------------------------------------------------
-- The graph of references
-----------------------------------------------------------------------------------------

/-- The translation of the node resolves the reference, which stays inside the package, before it
follows any other.
-/
def Mentions (node : Json) (reference : Reference) : Prop :=
  reference.isLocal
  ∧ ∃ path source origin,
      ReflTransGen Descends ⟨node, path⟩ ⟨.object source, origin⟩ ∧ Refers source reference

/-- The node that stands behind the first reference mentions the second. -/
def Succeeds (doc : Document) (reference next : Reference) : Prop :=
  ∃ node, doc.standIn? reference = some node ∧ Mentions node next

/-- The input properties of the component lead to the reference. -/
def InputsReach (doc : Document) (component : Component) (reference : Reference) : Prop :=
  ∃ entry ∈ component.resource.inputProperties,
    ∃ first, Mentions entry.2 first ∧ ReflTransGen doc.Succeeds first reference

/-- The reference leads back to itself. -/
def OnCycle (doc : Document) (reference : Reference) : Prop :=
  TransGen doc.Succeeds reference reference

/-- Where the translation goes on to does not depend on the path of the node. -/
theorem descends_at {place next : Place} (step : Descends place next) (path : Path)
    : ∃ path', Descends ⟨place.node, path⟩ ⟨next.node, path'⟩ := by
  cases step with
  | items list found => exact ⟨_, .items list found⟩
  | property object found member => exact ⟨_, .property object found member⟩
  | values object properties found => exact ⟨_, .values object properties found⟩

theorem descent_at {place next : Place} (way : ReflTransGen Descends place next) (path : Path)
    : ∃ path', ReflTransGen Descends ⟨place.node, path⟩ ⟨next.node, path'⟩ := by
  induction way with
  | refl => exact ⟨path, .refl⟩
  | tail _ step ih =>
      obtain ⟨middle, way⟩ := ih
      obtain ⟨path', step⟩ := descends_at step middle
      exact ⟨path', way.tail step⟩

-----------------------------------------------------------------------------------------
-- A cycle that is met is one of the graph
-----------------------------------------------------------------------------------------

/-- The annotations of a node and its own shape are never to blame for a cycle. -/
theorem not_cyclic_of_fault {place : Place} {path : Path} {reference : Reference}
    : ¬ Schema.Fault place (.unsupported ⟨path, .cyclic reference⟩) := by
  intro lies
  cases lies with
  | annotations _ refused => exact nomatch annotated_error refused

variable {doc : Document}

/-- A cycle that the translation of a node meets is one of a reference that the node leads to, and
the reference is on the trail or leads back to itself. Witness: below every reference that is
resolved, the reference that is met is either that one, and closes a cycle, or was met before.
-/
theorem cycle_of_meets (trail : List Reference) (place : Place) {path : Path}
    {reference : Reference}
    (met
      : (ofNode (doc.resolve trail) place.node place.path).Meets
          (.unsupported ⟨path, .cyclic reference⟩))
    : ∃ first,
        Mentions place.node first
        ∧ ReflTransGen doc.Succeeds first reference
        ∧ (reference ∈ trail ∨ doc.OnCycle reference) := by
  obtain ⟨⟨_, origin⟩, way, blame⟩ := origin_of_meets place met
  rcases blame with lies | ⟨source, first, rfl, refers, met⟩
  · exact (not_cyclic_of_fault lies).elim
  obtain ⟨inside, ⟨onTrail, eq⟩ | ⟨fresh, node, found, met⟩ | ⟨_, eq⟩⟩ := meets_resolve met
  · cases eq
    exact ⟨reference, ⟨inside, _, _, _, way, refers⟩, .refl, .inl onTrail⟩
  · have := unvisited_cons_lt (mem_references_of_standIn? found) fresh
    obtain ⟨second, mentioned, further, closed⟩ :=
      cycle_of_meets (first :: trail) ⟨node, origin⟩ met
    have step : doc.Succeeds first second := ⟨node, found, mentioned⟩
    refine ⟨first, ⟨inside, _, _, _, way, refers⟩, .head step further, ?_⟩
    rcases closed with onTrail | onCycle
    · rcases List.mem_cons.mp onTrail with rfl | earlier
      · exact .inr (.head' step further)
      · exact .inl earlier
    · exact .inr onCycle
  · cases eq
termination_by doc.unvisited trail

-----------------------------------------------------------------------------------------
-- A cycle of the graph is met
-----------------------------------------------------------------------------------------

/-- The reference leads to a cycle. -/
def Loops (doc : Document) (reference : Reference) : Prop :=
  ∃ target, ReflTransGen doc.Succeeds reference target ∧ doc.OnCycle target

/-- From a reference that leads to a cycle there is always a step further. -/
theorem Loops.next {reference : Reference} (loops : doc.Loops reference)
    : ∃ next, doc.Succeeds reference next ∧ doc.Loops next := by
  obtain ⟨target, way, onCycle⟩ := loops
  rcases way.cases_head with rfl | ⟨next, step, further⟩
  · obtain ⟨next, step, back⟩ := TransGen.head'_iff.mp onCycle
    exact ⟨next, step, reference, back, onCycle⟩
  · exact ⟨next, step, target, further, onCycle⟩

/-- Where resolving a reference halts at every path, the translation of a node that mentions it
halts.
-/
theorem Mentions.halts {resolve : Reference → Path → Attempt Schema} {node : Json}
    {reference : Reference} (mentions : Mentions node reference)
    (halts : ∀ path, (resolve reference path).Halts) (path : Path)
    : (ofNode resolve node path).Halts := by
  obtain ⟨_, _, source, origin, way, refers⟩ := mentions
  obtain ⟨origin', way⟩ := descent_at way path
  have stopped : (ofNode resolve (.object source) origin').Halts := refers.halts (halts origin')
  exact halts_of_descent way stopped

/-- Resolving a reference that leads to a cycle halts, whatever is on the trail. Witness: the trail
grows by one reference after the other of the document until one is met again, or until something
else halts.
-/
theorem Loops.halts (trail : List Reference) {reference : Reference}
    (loops : doc.Loops reference) (path : Path)
    : (doc.resolve trail reference path).Halts := by
  obtain ⟨next, ⟨node, found, mentions⟩, further⟩ := loops.next
  rw [resolve_local doc trail path (isLocal_of_standIn? found)]
  split
  · exact Attempt.halts_fail rfl
  · next fresh =>
      have := unvisited_cons_lt (mem_references_of_standIn? found) fresh
      simp only [found]
      exact mentions.halts (fun path => Loops.halts (reference :: trail) further path) path
termination_by doc.unvisited trail

/-- An attempt at a component halts if its inputs reach a reference on a cycle. -/
theorem attemptInputs_halts {component : Component} {reference : Reference}
    (reached : doc.InputsReach component reference) (onCycle : doc.OnCycle reference)
    : (doc.attemptInputs component).Halts := by
  obtain ⟨entry, member, first, mentions, way⟩ := reached
  have loops : doc.Loops first := ⟨reference, way, onCycle⟩
  exact halts_ofProperties member (mentions.halts (loops.halts []) _)

-----------------------------------------------------------------------------------------
-- Cycles are detected exactly
-----------------------------------------------------------------------------------------

/-- A component that is refused for a cycle has one: its inputs reach the reference, which leads
back to itself. Without a cycle among the references that the inputs reach no component is refused
for one. And with such a cycle a component is never translated, and its properties are not left
out one by one until nothing remains.
-/
structure CyclesExact (doc : Document) (component : Component) : Prop where
  sound
    : ∀ construct text,
        doc.translate component = .error (.unsupported construct)
        → construct.summary = "cyclic local ref \"" ++ text ++ "\""
        → doc.InputsReach component (.ofText text) ∧ doc.OnCycle (.ofText text)
  acyclic
    : (∀ reference, doc.InputsReach component reference → ¬ doc.OnCycle reference)
        → ∀ construct text,
            doc.translate component = .error (.unsupported construct)
            → construct.summary ≠ "cyclic local ref \"" ++ text ++ "\""
  complete
    : ∀ reference,
        doc.InputsReach component reference
        → doc.OnCycle reference
        → (∀ translation, doc.translate component ≠ .ok translation)
          ∧ ∀ token skipped, doc.translate component ≠ .error (.nothingTranslatable token skipped)

/-- A component that is refused for a cycle has one. -/
theorem reached_of_cyclic {component : Component} {construct : Unsupported} {text : String}
    (fails : doc.translate component = .error (.unsupported construct))
    (named : construct.summary = "cyclic local ref \"" ++ text ++ "\"")
    : doc.InputsReach component (.ofText text) ∧ doc.OnCycle (.ofText text) := by
  rcases translate_error fails with ⟨⟨path, cause⟩, outcome, eq⟩ | ⟨_, _, _, eq⟩ | ⟨_, eq⟩
  · obtain rfl := TranslationError.unsupported.inj eq
    obtain ⟨reference, rfl, rfl⟩ := Rejection.summary_eq_cyclic named
    obtain ⟨entry, member, met⟩ := meets_ofProperties (.inl outcome)
    obtain ⟨first, mentions, way, onTrail | onCycle⟩ :=
      cycle_of_meets [] ⟨entry.2, .property .spec entry.1⟩ met
    · cases onTrail
    · have inside : reference.isLocal := by
        obtain ⟨next, ⟨node, found, _⟩, _⟩ := TransGen.head'_iff.mp onCycle
        exact isLocal_of_standIn? found
      rw [Reference.ofText_text inside]
      exact ⟨⟨entry, member, first, mentions, way⟩, onCycle⟩
  · cases eq
  · cases eq

/-- Where the attempt at a component halts, the component is refused, and not because nothing is
left.
-/
theorem refused_of_halts {component : Component} (halts : (doc.attemptInputs component).Halts)
    : ∃ error, doc.translate component = .error error
        ∧ ∀ token skipped, error ≠ .nothingTranslatable token skipped := by
  obtain ⟨failure, outcome, _⟩ := halts
  unfold attemptInputs at outcome
  cases failure with
  | unsupported refusal =>
      exact ⟨.unsupported (refusal.unsupported component.token), by simp [translate, outcome]⟩
  | malformed path cause =>
      exact ⟨.malformed component.token path cause, by simp [translate, outcome]⟩

/-- The translation detects cycles exactly. -/
theorem cyclesExact (doc : Document) (component : Component) : doc.CyclesExact component where
  sound _ _ fails named := reached_of_cyclic fails named
  acyclic none _ _ fails named := by
    obtain ⟨reached, onCycle⟩ := reached_of_cyclic fails named
    exact none _ reached onCycle
  complete _ reached onCycle := by
    obtain ⟨error, fails, other⟩ := refused_of_halts (attemptInputs_halts reached onCycle)
    constructor
    · intro translation succeeds
      exact nomatch fails.symm.trans succeeds
    · intro token skipped empty
      exact other token skipped (Except.error.inj (fails.symm.trans empty))

/-- A document with a leaf, a type that shares the leaf, and a type that holds a list of itself. -/
def branchingDocument : Document where
  types := [
    ("p:i:Leaf", .object [("type", .string "string")]),
    ("p:i:Pair", .object [
      ("properties", .object [
        ("left", .object [("$ref", .string "#/types/p:i:Leaf")]),
        ("right", .object [("$ref", .string "#/types/p:i:Leaf")])]),
      ("type", .string "object")]),
    ("p:i:Tree", .object [
      ("items", .object [("$ref", .string "#/types/p:i:Tree")]),
      ("type", .string "array")])]

/-- A component whose only input is what a reference leads to. -/
def singleInput (text : String) : Component where
  token := "p:i:Thing"
  resource := {
    isComponent := true
    inputProperties := [("input", .object [("$ref", .string text)])] }

/-- The list of itself is refused for the cycle. -/
example
    : (match branchingDocument.translate (singleInput "#/types/p:i:Tree") with
        | .error (.unsupported construct) =>
            construct.summary == "cyclic local ref \"#/types/p:i:Tree\""
        | _ => false) = true := by
  decide +kernel

/-- The shared leaf is no cycle. -/
example : (branchingDocument.translate (singleInput "#/types/p:i:Pair")).isOk = true := by
  decide +kernel

end ComponentCrd.Document
