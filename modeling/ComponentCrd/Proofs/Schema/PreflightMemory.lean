import ComponentCrd.Proofs.Schema.PreflightClosure
import ComponentCrd.Proofs.Schema.PreflightSteps

/-! Remembering the references that have passed never changes the answer of a check. The check is
compared with one that goes into the target of a reference each time it meets the reference, and
stops only at references that are being visited. A reference may have passed while others around
it were still being visited, so that its target was cut short; but whatever was left out there has
passed itself by the time that it is no longer being visited.
-/

namespace ComponentCrd.Document

open Preflight

-----------------------------------------------------------------------------------------
-- The check without memory
-----------------------------------------------------------------------------------------

/-- Checks what a reference leads to, at the path of the reference, unless it is being visited. The
references that have passed make no difference, and none is added to them.
-/
def retrace (doc : Document) (mode : Mode) (visiting : List Reference) (reference : Reference)
    (path : Path)
    : Check :=
  match reference with
  | .external _ =>
      match mode with
      | .component => pass
      | .document => breach path (.outsideReference reference)
  | reference =>
      if seen : reference ∈ visiting then
        pass
      else
        match h : doc.target? reference with
        | some (.type (.object source)) =>
            have := unvisited_cons_lt (mem_references_of_target? h) seen
            node (fun next path => doc.retrace mode (reference :: visiting) next path)
              (.object source) path
        | some (.type _) => breach path (.typeNotObject reference)
        | some (.resource resource) =>
            have := unvisited_cons_lt (mem_references_of_target? h) seen
            inputs (fun next path => doc.retrace mode (reference :: visiting) next path)
              resource.inputProperties path
        | none =>
            match reference with
            | .resource _ => breach path (.unresolvedResource reference)
            | _ => breach path (.unresolvedType reference)
termination_by doc.unvisited visiting

/-- Checks everything that a component reaches, without memory. -/
def preflightAfresh (doc : Document) (component : Component) : Except PreflightError Unit :=
  match inputs (doc.retrace .component []) component.resource.inputProperties .spec [] with
  | .ok _ => .ok ()
  | .error breach => .error ⟨component.token, breach⟩

/-- Checks every resource and every type of a document, without memory. -/
def preflightAllAfresh (doc : Document) : Except PreflightError Unit :=
  let follow := doc.retrace .document []
  let resources := doc.resources.map fun (token, resource) =>
    (token, inputs follow resource.inputProperties .spec)
  let types := doc.types.map fun (token, value) => (token, node follow value .spec)
  (inTurn (resources ++ types) []).map fun _ => ()

theorem retrace_external (doc : Document) (mode : Mode) (visiting : List Reference) (text : String)
    (path : Path)
    : doc.retrace mode visiting (.external text) path
      = match mode with
        | .component => pass
        | .document => breach path (.outsideReference (.external text)) := by
  rw [retrace.eq_def]

/-- A reference inside the package takes the steps of its target, unless it is being visited. -/
theorem retrace_local (doc : Document) (mode : Mode) (visiting : List Reference)
    {reference : Reference} (path : Path) (inside : reference.isLocal)
    : doc.retrace mode visiting reference path
      = if reference ∈ visiting then pass
        else
          perform (doc.retrace mode (reference :: visiting)) path (doc.targetSteps reference) := by
  have proper : ∀ text, reference = .external text → False := by
    rintro text rfl
    simp [Reference.isLocal] at inside
  rw [← targetPart_eq_perform, retrace]
  · split
    · rfl
    · unfold targetPart
      split
      · next source found => simp only [found, Json.isObject, Json.members?]; rfl
      · next value scalar found => simp only [found, Json.isObject_eq_false scalar]; rfl
      · next resource found => simp only [found]
      · next missing =>
          simp only [missing]
          cases reference <;> rfl
  · exact proper

-----------------------------------------------------------------------------------------
-- What a check leaves to be remembered
-----------------------------------------------------------------------------------------

/-- Nothing is left to check behind the reference: it leads outside the package, where that passes,
or it is known.
-/
structure Answered (mode : Mode) (known : Reference → Prop) (reference : Reference) : Prop where
  outside : reference.isLocal = false → mode = .component
  inside : reference.isLocal → known reference

/-- Nothing is left to check behind the steps. -/
def StepsAnswered (mode : Mode) (known : Reference → Prop) (steps : List Step) : Prop :=
  ∀ step ∈ steps, ∃ reference place, step = .follow reference place ∧ Answered mode known reference

/-- Nothing is left to check behind the targets of the references that have passed, apart from what
is being visited.
-/
def Remembered (doc : Document) (mode : Mode) (visiting passed : List Reference) : Prop :=
  ∀ reference ∈ passed,
    StepsAnswered mode (Seen visiting passed) (doc.targetSteps reference)

theorem Answered.mono {mode : Mode} {known more : Reference → Prop} {reference : Reference}
    (answered : Answered mode known reference)
    (included : ∀ reference, known reference → more reference)
    : Answered mode more reference :=
  ⟨answered.outside, fun inside => included _ (answered.inside inside)⟩

theorem StepsAnswered.mono {mode : Mode} {known more : Reference → Prop} {steps : List Step}
    (answered : StepsAnswered mode known steps)
    (included : ∀ reference, known reference → more reference)
    : StepsAnswered mode more steps := by
  intro step member
  obtain ⟨reference, place, rfl, answered⟩ := answered step member
  exact ⟨reference, place, rfl, answered.mono included⟩

variable {doc : Document} {mode : Mode} {visiting passed : List Reference}

/-- Visiting one more reference keeps what is remembered. -/
theorem Remembered.enter (remembered : doc.Remembered mode visiting passed)
    (reference : Reference)
    : doc.Remembered mode (reference :: visiting) passed :=
  fun r member => (remembered r member).mono fun _ seen => seen.imp_right (.tail _)

/-- A reference whose target has passed may be remembered when it is no longer being visited.
Witness: the same references are seen before and after.
-/
theorem Remembered.leave {reference : Reference}
    (remembered : doc.Remembered mode (reference :: visiting) passed)
    (answered
      : StepsAnswered mode (Seen (reference :: visiting) passed) (doc.targetSteps reference))
    : doc.Remembered mode visiting (reference :: passed) := by
  have same
      : ∀ r, Seen (reference :: visiting) passed r → Seen visiting (reference :: passed) r := by
    rintro r (member | member)
    · exact .inl (.tail _ member)
    · rcases List.mem_cons.mp member with rfl | earlier
      · exact .inl (.head _)
      · exact .inr earlier
  intro r member
  rcases List.mem_cons.mp member with rfl | earlier
  · exact answered.mono same
  · exact (remembered r earlier).mono same

/-- Steps pass where every reference that they follow passes at every path. -/
theorem perform_eq_pass {follow : Reference → Path → Check} {known : Reference → Prop}
    {steps : List Step} (path : Path) (answered : StepsAnswered mode known steps)
    (passes
      : ∀ reference path, Answered mode known reference → follow reference path = pass)
    : perform follow path steps = pass := by
  induction steps with
  | nil => rfl
  | cons step rest ih =>
      obtain ⟨reference, place, rfl, known⟩ := answered step (.head _)
      rw [perform, passes reference (place path) known, both_pass]
      exact ih fun step member => answered step (.tail _ member)

/-- A reference is one of the document's references if the check of its target finds nothing wrong.
-/
theorem mem_references_of_answered {known : Reference → Prop} {reference : Reference}
    (answered : StepsAnswered mode known (doc.targetSteps reference))
    : reference ∈ doc.references := by
  cases target : doc.target? reference with
  | some found => exact mem_references_of_target? target
  | none =>
      obtain ⟨_, _, impossible, _⟩ := answered (.fail (dangling reference) id) (by
        simp [targetSteps, target])
      cases impossible

/-- Going once more into what is answered finds nothing, whatever else is being visited by then. By
recursion over the references that are not being visited.
-/
theorem retrace_eq_pass (remembered : doc.Remembered mode visiting passed)
    {around : List Reference} (included : visiting ⊆ around) {reference : Reference}
    (path : Path) (answered : Answered mode (Seen visiting passed) reference)
    : doc.retrace mode around reference path = pass := by
  cases inside : reference.isLocal with
  | false =>
      obtain ⟨text, rfl⟩ := Reference.eq_external_of_not_isLocal inside
      rw [retrace_external, answered.outside inside]
  | true =>
      rw [retrace_local doc mode around path inside]
      split
      · rfl
      · next fresh =>
          have passedBefore : reference ∈ passed := by
            rcases answered.inside inside with member | member
            · exact member
            · exact (fresh (included member)).elim
          have targets := remembered reference passedBefore
          have := unvisited_cons_lt (mem_references_of_answered targets) fresh
          refine perform_eq_pass path targets fun next path answered => ?_
          have wider : visiting ⊆ reference :: around := fun _ member => .tail _ (included member)
          exact retrace_eq_pass remembered wider path answered
termination_by doc.unvisited around

-----------------------------------------------------------------------------------------
-- Both checks give the same answer
-----------------------------------------------------------------------------------------

/-- What a check comes to after the references that have passed before, and the check that repeats
it without memory: both find the same breach, or both pass. The check that passes only adds
references, keeps what is remembered, and leaves a fact about the references seen.
-/
inductive RepeatsFrom (doc : Document) (mode : Mode) (visiting before : List Reference)
    (fact : (Reference → Prop) → Prop)
    : Except Breach (List Reference) → Check → Prop
  | stops (path : Path) (violation : Violation)
    : doc.RepeatsFrom mode visiting before fact (.error ⟨path, violation⟩) (breach path violation)
  | passes {after : List Reference} (included : before ⊆ after)
    (remembered : doc.Remembered mode visiting after) (holds : fact (Seen visiting after))
    : doc.RepeatsFrom mode visiting before fact (.ok after) pass

/-- The second check repeats the first without memory, from whatever is remembered. -/
def Repeats (doc : Document) (mode : Mode) (visiting : List Reference) (check again : Check)
    (fact : (Reference → Prop) → Prop)
    : Prop :=
  ∀ before, doc.Remembered mode visiting before
    → doc.RepeatsFrom mode visiting before fact (check before) again

section

variable {check again next nextAgain : Check} {fact other : (Reference → Prop) → Prop}

theorem Repeats.imp (repeats : doc.Repeats mode visiting check again fact)
    (implies : ∀ known, fact known → other known)
    : doc.Repeats mode visiting check again other := by
  intro before remembered
  have outcome := repeats before remembered
  generalize check before = result at outcome ⊢
  cases outcome with
  | stops path violation => exact .stops path violation
  | passes included remembered holds => exact .passes included remembered (implies _ holds)

/-- Two checks in turn are repeated one after the other: what the first one leaves is remembered
when the second one is taken.
-/
theorem Repeats.both (repeats : doc.Repeats mode visiting check again fact)
    (repeatsNext : doc.Repeats mode visiting next nextAgain other)
    (mono : ∀ known more, (∀ reference, known reference → more reference) → fact known → fact more)
    : doc.Repeats mode visiting (both check next) (both again nextAgain)
        (fun known => fact known ∧ other known) := by
  intro before remembered
  have first := repeats before remembered
  change doc.RepeatsFrom mode visiting before _ (check before >>= next) _
  generalize check before = result at first ⊢
  cases first with
  | stops path violation => exact .stops path violation
  | @passes middle included remembered holds =>
      have second := repeatsNext middle remembered
      rw [both_pass]
      change doc.RepeatsFrom mode visiting before _ (next middle) _
      generalize next middle = result at second ⊢
      cases second with
      | stops path violation => exact .stops path violation
      | passes further remembered others =>
          have kept := mono _ _ (fun _ seen => seen.mono further) holds
          exact .passes (List.Subset.trans included further) remembered ⟨kept, others⟩

end

/-- Steps are repeated where following a reference is, by induction over the steps. -/
theorem repeats_perform {follow again : Reference → Path → Check}
    (follows
      : ∀ reference path,
          doc.Repeats mode visiting (follow reference path) (again reference path)
            (Answered mode · reference))
    (path : Path) (steps : List Step)
    : doc.Repeats mode visiting (perform follow path steps) (perform again path steps)
        (StepsAnswered mode · steps) := by
  induction steps with
  | nil =>
      intro before remembered
      refine .passes (List.Subset.refl _) remembered ?_
      intro step member
      cases member
  | cons step rest ih =>
      cases step with
      | fail violation place => exact fun _ _ => .stops _ _
      | follow reference place =>
          have first := follows reference (place path)
          apply (first.both ih fun _ _ included answered => answered.mono included).imp
          rintro known ⟨answered, others⟩ step member
          rcases List.mem_cons.mp member with rfl | later
          · exact ⟨reference, place, rfl, answered⟩
          · exact others step later

/-- A reference is remembered when the visit of its target ends. -/
theorem RepeatsFrom.leave {before : List Reference} {reference : Reference}
    {result : Except Breach (List Reference)} {again : Check}
    (target
      : doc.RepeatsFrom mode (reference :: visiting) before
          (StepsAnswered mode · (doc.targetSteps reference)) result again)
    (inside : reference.isLocal)
    : doc.RepeatsFrom mode visiting before (Answered mode · reference)
        (result.map (reference :: ·)) again := by
  cases target with
  | stops path violation => exact .stops path violation
  | passes included remembered answered =>
      refine .passes (fun _ member => .tail _ (included member)) (remembered.leave answered) ?_
      refine ⟨fun outside => ?_, fun _ => .inl (.head _)⟩
      cases inside.symm.trans outside

/-- Following a reference is repeated by going into its target. By recursion over the references
that are not being visited: a reference that has passed is one that going into again finds nothing
behind.
-/
theorem repeats_follow (doc : Document) (mode : Mode) (visiting : List Reference)
    (reference : Reference) (path : Path)
    : doc.Repeats mode visiting (doc.follow mode visiting reference path)
        (doc.retrace mode visiting reference path) (Answered mode · reference) := by
  intro before remembered
  cases inside : reference.isLocal with
  | false =>
      obtain ⟨text, rfl⟩ := Reference.eq_external_of_not_isLocal inside
      rw [follow_external, retrace_external]
      cases mode with
      | document => exact .stops path (.outsideReference (.external text))
      | component =>
          refine .passes (List.Subset.refl _) remembered ⟨fun _ => rfl, fun isLocal => ?_⟩
          cases isLocal
  | true =>
      rw [follow_local doc mode visiting path before inside]
      by_cases seen : reference ∈ before ∨ reference ∈ visiting
      · have answered : Answered mode (Seen visiting before) reference := by
          refine ⟨fun outside => ?_, fun _ => seen⟩
          cases inside.symm.trans outside
        rw [if_pos seen, retrace_eq_pass remembered (List.Subset.refl _) path answered]
        exact .passes (List.Subset.refl _) remembered answered
      · rw [if_neg seen, retrace_local doc mode visiting path inside, if_neg (seen ∘ .inr),
          targetPart_eq_perform]
        have target
            : doc.Repeats mode (reference :: visiting)
                (perform (doc.follow mode (reference :: visiting)) path
                  (doc.targetSteps reference))
                (perform (doc.retrace mode (reference :: visiting)) path
                  (doc.targetSteps reference))
                (StepsAnswered mode · (doc.targetSteps reference)) := by
          -- The recursion ends for references of the document; another one has nothing to repeat.
          by_cases known : reference ∈ doc.references
          · have := unvisited_cons_lt known (seen ∘ .inr)
            exact repeats_perform (repeats_follow doc mode (reference :: visiting)) path _
          · have missing : doc.target? reference = none := by
              cases found : doc.target? reference with
              | none => rfl
              | some target => exact (known (mem_references_of_target? found)).elim
            simp only [targetSteps, missing, perform]
            exact fun _ _ => .stops path (dangling reference)
        exact (target before (remembered.enter reference)).leave inside
termination_by doc.unvisited visiting

/-- Named checks in turn give the same answer as the checks that repeat them, by induction over
their list: the memory grows from one to the next.
-/
theorem inTurn_eq (walks : List (String × List Step)) (passed memory : List Reference)
    (remembered : doc.Remembered mode [] passed)
    : ((inTurn (walks.map fun walk => (walk.1, perform (doc.follow mode []) .spec walk.2))
          passed).map fun _ => ())
      = (inTurn (walks.map fun walk => (walk.1, perform (doc.retrace mode []) .spec walk.2))
          memory).map fun _ => () := by
  induction walks generalizing passed with
  | nil => rfl
  | cons walk rest ih =>
      have walked := repeats_perform (repeats_follow doc mode []) .spec walk.2 passed remembered
      simp only [List.map_cons, inTurn]
      generalize perform (doc.follow mode []) .spec walk.2 passed = result at walked ⊢
      generalize perform (doc.retrace mode []) .spec walk.2 = again at walked ⊢
      cases walked with
      | stops path violation => rfl
      | passes _ remembered _ => exact ih _ remembered

theorem remembered_nil : doc.Remembered mode visiting [] := by
  intro reference member
  cases member

/-- The checks of a whole document, by their names and steps. -/
def walks (doc : Document) : List (String × List Step) :=
  doc.resources.map (fun entry => (entry.1, inputSteps entry.2.inputProperties))
    ++ doc.types.map fun entry => (entry.1, nodeSteps entry.2)

/-- The checks of a whole document take their steps. -/
theorem checks_eq_walks (doc : Document) (follow : Reference → Path → Check)
    : (doc.resources.map fun (token, resource) =>
          (token, inputs follow resource.inputProperties .spec))
        ++ (doc.types.map fun (token, value) => (token, node follow value .spec))
      = doc.walks.map fun walk => (walk.1, perform follow .spec walk.2) := by
  simp only [walks, List.map_append, List.map_map, Function.comp_def, inputs_eq_perform,
    node_eq_perform]

/-- What a check remembers never changes its answer: a component passes, or is refused at the same
path for the same violation, exactly as if every target were checked each time a reference to it is
met, and so is a whole document, with the same name in the error.
-/
theorem preflight_eq_afresh (doc : Document)
    : (∀ component, doc.preflight component = doc.preflightAfresh component)
      ∧ doc.preflightAll = doc.preflightAllAfresh := by
  constructor
  · intro component
    unfold preflight preflightAfresh
    rw [inputs_eq_perform, inputs_eq_perform]
    have walked :=
      repeats_perform (repeats_follow doc .component []) .spec
        (inputSteps component.resource.inputProperties) [] remembered_nil
    generalize perform (doc.follow .component []) .spec _ [] = result at walked ⊢
    generalize perform (doc.retrace .component []) .spec _ = again at walked ⊢
    cases walked with
    | stops path violation => rfl
    | passes => rfl
  · unfold preflightAll preflightAllAfresh
    simp only [checks_eq_walks]
    exact inTurn_eq doc.walks [] [] remembered_nil

end ComponentCrd.Document
