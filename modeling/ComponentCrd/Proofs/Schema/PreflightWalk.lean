import ComponentCrd.Proofs.Schema.PreflightSteps
import Mathlib.Data.List.Nodup

/-! The check of shapes as a walk that keeps two sets: the references that are being visited and the
references whose targets have passed. Every moment of a walk is recorded, and so is every target
that it goes into. The first set is the branch the walk is on at every moment, the sets have nothing
in common, the second one only grows, and no target is gone into twice; so a walk with a budget for
as many targets within each other as the document has entries never runs out of it.
-/

namespace ComponentCrd

/-- References inside the package with the same text are the same. -/
theorem Reference.eq_of_text_eq {first second : Reference} (inside : first.isLocal)
    (other : second.isLocal) (same : first.text = second.text)
    : first = second := by
  rw [← ofText_text inside, same, ofText_text other]

namespace Preflight

-----------------------------------------------------------------------------------------
-- Walks and their records
-----------------------------------------------------------------------------------------

/-- A moment of a walk: the references whose targets it is inside of, the innermost first, and the
two sets as they are.
-/
structure Moment where
  branch : List Reference
  visiting : List Reference
  validated : List Reference

/-- The two sets of a walk, and its record: the references whose targets it went into, and the
moments it has been through, the latest first.
-/
structure Walk where
  visiting : List Reference := []
  validated : List Reference := []
  started : List Reference := []
  moments : List Moment := []

/-- How a walk ends: with nothing left to check, at what is wrong, or without a budget to go on. -/
inductive Ending (ε : Type) where
  | done
  | failed (cause : ε)
  | exhausted

/-- A walk from a state on. -/
abbrev Walker (ε : Type) := Walk → Ending ε × Walk

namespace Walk

/-- Records a moment on the branch. -/
def note (branch : List Reference) (walk : Walk) : Walk :=
  { walk with moments := ⟨branch, walk.visiting, walk.validated⟩ :: walk.moments }

/-- Goes into the target of a reference. -/
def enter (reference : Reference) (walk : Walk) : Walk :=
  { walk with
    visiting := reference :: walk.visiting
    started := reference :: walk.started }

/-- Comes back from the target of a reference that has passed. -/
def leave (reference : Reference) (walk : Walk) : Walk :=
  { walk with
    visiting := walk.visiting.erase reference
    validated := reference :: walk.validated }

end Walk

/-- Takes steps on a branch, one after the other, with a way to follow references. -/
def walkSteps (goInto : Reference → Path → Walker Breach) (branch : List Reference) (path : Path) :
    List Step → Walker Breach
  | [], walk => (.done, walk.note branch)
  | .fail violation place :: _, walk => (.failed ⟨place path, violation⟩, walk.note branch)
  | .follow reference place :: rest, walk =>
      match goInto reference (place path) (walk.note branch) with
      | (.done, after) => walkSteps goInto branch path rest after
      | stopped => stopped

/-- Takes the steps of the target of a reference, with the reference on the branch. -/
def walkTarget (goInto : Reference → Path → Walker Breach) (branch : List Reference)
    (reference : Reference) (path : Path) (steps : List Step) : Walker Breach := fun walk =>
  match walkSteps goInto (reference :: branch) path steps (walk.enter reference) with
  | (.done, after) => (.done, after.leave reference)
  | stopped => stopped

/-- Follows a reference: one that is being visited or has passed needs nothing more, one that leaves
the package is a matter of the mode, and the target of every other one is walked.
-/
def approach (mode : Mode) (reference : Reference) (path : Path) (target : Walker Breach) :
    Walker Breach := fun walk =>
  if reference.isLocal then
    if reference ∈ walk.validated ∨ reference ∈ walk.visiting then (.done, walk) else target walk
  else
    match mode with
    | .component => (.done, walk)
    | .document => (.failed ⟨path, .outsideReference reference⟩, walk)

/-- Named walks one after the other, with the name for the error. -/
def walkInTurn (goInto : Reference → Path → Walker Breach) :
    List (String × List Step) → Walker PreflightError
  | [], walk => (.done, walk)
  | (name, steps) :: rest, walk =>
      match walkSteps goInto [] .spec steps walk with
      | (.done, after) => walkInTurn goInto rest after
      | (.failed breach, after) => (.failed ⟨name, breach⟩, after)
      | (.exhausted, after) => (.exhausted, after)

end Preflight

namespace Document

open Preflight

/-- Walks what a reference leads to, unless it has passed or is being visited. The budget is for
targets within each other.
-/
def walkReference (doc : Document) (mode : Mode) :
    (budget : Nat) → List Reference → Reference → Path → Walker Breach
  | 0, _, reference, path => approach mode reference path fun walk => (.exhausted, walk)
  | budget + 1, branch, reference, path =>
      approach mode reference path
        (walkTarget (doc.walkReference mode budget (reference :: branch)) branch reference path
          (doc.targetSteps reference))

/-- Walks everything that a component reaches. -/
def walkComponent (doc : Document) (budget : Nat) (component : Component) :
    Ending PreflightError × Walk :=
  walkInTurn (doc.walkReference .component budget [])
    [(component.token, inputSteps component.resource.inputProperties)] {}

/-- Walks every resource and every type of a document. -/
def walkAll (doc : Document) (budget : Nat) : Ending PreflightError × Walk :=
  let resources := doc.resources.map fun (token, resource) =>
    (token, inputSteps resource.inputProperties)
  let types := doc.types.map fun (token, value) => (token, nodeSteps value)
  walkInTurn (doc.walkReference .document budget []) (resources ++ types) {}

end Document

namespace Preflight

-----------------------------------------------------------------------------------------
-- What is true throughout a walk
-----------------------------------------------------------------------------------------

/-- At the moment the references that are being visited are those of the branch, each once, they
stay inside the package, and none of them has passed.
-/
structure Moment.Sound (moment : Moment) : Prop where
  visiting : moment.visiting = moment.branch
  distinct : moment.visiting.Nodup
  apart : ∀ reference ∈ moment.visiting, reference.isLocal ∧ reference ∉ moment.validated

/-- The record of a walk: all moments are sound, what has passed at one has passed at all later
ones, and no target was gone into twice.
-/
structure Walk.Recorded (walk : Walk) : Prop where
  sound : ∀ moment ∈ walk.moments, moment.Sound
  grows : walk.moments.Pairwise fun later earlier => earlier.validated ⊆ later.validated
  inside : ∀ reference ∈ walk.started, reference.isLocal
  once : walk.started.Nodup

/-- What is true of a walk that goes on, on the branch. -/
structure Walk.OnBranch (branch : List Reference) (walk : Walk) : Prop extends
    walk.Recorded where
  now : (Moment.mk branch walk.visiting walk.validated).Sound
  kept : ∀ moment ∈ walk.moments, moment.validated ⊆ walk.validated
  placed
    : ∀ reference ∈ walk.started, reference ∈ walk.visiting ∨ reference ∈ walk.validated

namespace Walk.OnBranch

variable {branch : List Reference} {reference : Reference} {walk : Walk}

theorem start : OnBranch [] {} where
  sound := nofun
  grows := .nil
  inside := nofun
  once := .nil
  now := ⟨rfl, .nil, nofun⟩
  kept := nofun
  placed := nofun

/-- Recording a moment keeps what is true. -/
theorem note (on : OnBranch branch walk) : OnBranch branch (walk.note branch) where
  sound := List.forall_mem_cons.mpr ⟨on.now, on.sound⟩
  grows := List.pairwise_cons.mpr ⟨on.kept, on.grows⟩
  inside := on.inside
  once := on.once
  now := on.now
  kept := List.forall_mem_cons.mpr ⟨List.Subset.refl _, on.kept⟩
  placed := on.placed

/-- Going into a target that was not met before keeps what is true, one reference further in. -/
theorem enter (on : OnBranch branch walk) (isLocal : reference.isLocal)
    (unseen : ¬ (reference ∈ walk.validated ∨ reference ∈ walk.visiting))
    : OnBranch (reference :: branch) (walk.enter reference) := by
  obtain ⟨notPassed, notVisited⟩ := not_or.mp unseen
  refine ⟨⟨on.sound, on.grows, ?_, ?_⟩, ⟨?_, ?_, ?_⟩, on.kept, ?_⟩
  · exact List.forall_mem_cons.mpr ⟨isLocal, on.inside⟩
  · refine List.nodup_cons.mpr ⟨fun before => ?_, on.once⟩
    exact (on.placed reference before).elim notVisited notPassed
  · exact congrArg (reference :: ·) on.now.visiting
  · exact List.nodup_cons.mpr ⟨notVisited, on.now.distinct⟩
  · exact List.forall_mem_cons.mpr ⟨⟨isLocal, notPassed⟩, on.now.apart⟩
  · refine List.forall_mem_cons.mpr ⟨.inl (.head _), fun other before => ?_⟩
    exact (on.placed other before).imp_left (.tail _)

/-- Coming back from a target keeps what is true, on the branch from which it was gone into. -/
theorem leave (on : OnBranch (reference :: branch) walk)
    : OnBranch branch (walk.leave reference) := by
  have visiting : walk.visiting = reference :: branch := on.now.visiting
  have rest : walk.visiting.erase reference = branch := by
    rw [visiting, List.erase_cons_head]
  have distinct := visiting ▸ on.now.distinct
  refine ⟨⟨on.sound, on.grows, on.inside, on.once⟩, ⟨rest, ?_, ?_⟩, ?_, ?_⟩
  · exact rest.symm ▸ (List.nodup_cons.mp distinct).2
  · intro other member
    have stays : other ∈ branch := rest ▸ member
    obtain ⟨isLocal, notPassed⟩ := on.now.apart other (visiting.symm ▸ .tail _ stays)
    refine ⟨isLocal, fun passed => ?_⟩
    rcases List.mem_cons.mp passed with rfl | earlier
    · exact (List.nodup_cons.mp distinct).1 stays
    · exact notPassed earlier
  · intro moment member
    exact List.Subset.trans (on.kept moment member) (List.subset_cons_self _ _)
  · intro other before
    rcases on.placed other before with visited | passed
    · rcases List.mem_cons.mp (visiting ▸ visited : other ∈ reference :: branch) with rfl | stays
      · exact .inr (.head _)
      · exact .inl (show other ∈ walk.visiting.erase reference by rwa [rest])
    · exact .inr (.tail _ passed)

end Walk.OnBranch

/-- A walk that went on is on the branch again; one that ended has its record. -/
def Ends {ε : Type} (branch : List Reference) : Ending ε × Walk → Prop
  | (.done, walk) => walk.OnBranch branch
  | (_, walk) => walk.Recorded

theorem Ends.recorded {ε : Type} {branch : List Reference} {result : Ending ε × Walk}
    (ends : Ends branch result)
    : result.2.Recorded := by
  obtain ⟨ending, walk⟩ := result
  cases ending with
  | done => exact ends.toRecorded
  | failed _ | exhausted => exact ends

/-- Steps keep what is true of a walk if following references does, by induction over the steps. -/
theorem ends_walkSteps {goInto : Reference → Path → Walker Breach} {branch : List Reference}
    (each
      : ∀ reference path walk,
          walk.OnBranch branch → Ends branch (goInto reference path walk))
    (path : Path) (steps : List Step) {walk : Walk} (on : walk.OnBranch branch)
    : Ends branch (walkSteps goInto branch path steps walk) := by
  induction steps generalizing walk with
  | nil => exact on.note
  | cons step rest ih =>
      cases step with
      | fail violation place => exact on.note.toRecorded
      | follow reference place =>
          have ends := each reference (place path) _ on.note
          simp only [walkSteps]
          split
          · next after same =>
              rw [same] at ends
              exact ih ends
          · exact ends

/-- A target keeps what is true of a walk if following references inside it does. -/
theorem ends_walkTarget {goInto : Reference → Path → Walker Breach} {branch : List Reference}
    {reference : Reference}
    (each
      : ∀ next path walk,
          walk.OnBranch (reference :: branch)
          → Ends (reference :: branch) (goInto next path walk))
    (path : Path) (steps : List Step) {walk : Walk} (on : walk.OnBranch branch)
    (isLocal : reference.isLocal)
    (unseen : ¬ (reference ∈ walk.validated ∨ reference ∈ walk.visiting))
    : Ends branch (walkTarget goInto branch reference path steps walk) := by
  have inside := ends_walkSteps each path steps (on.enter isLocal unseen)
  unfold walkTarget
  generalize walkSteps goInto (reference :: branch) path steps (walk.enter reference) = result
    at inside
  obtain ⟨ending, after⟩ := result
  cases ending with
  | done => exact inside.leave
  | failed _ | exhausted => exact inside

/-- What is not gone into leaves a walk as it is. -/
theorem ends_approach {mode : Mode} {branch : List Reference} {reference : Reference} {path : Path}
    {target : Walker Breach} {walk : Walk} (on : walk.OnBranch branch)
    (into
      : reference.isLocal
        → ¬ (reference ∈ walk.validated ∨ reference ∈ walk.visiting)
        → Ends branch (target walk))
    : Ends branch (approach mode reference path target walk) := by
  unfold approach
  split
  · next isLocal =>
      split
      · exact on
      · next unseen => exact into isLocal unseen
  · cases mode with
    | component => exact on
    | document => exact on.toRecorded

/-- Following a reference keeps what is true of a walk, by induction over the budget. -/
theorem ends_walkReference (doc : Document) (mode : Mode) (budget : Nat) (branch : List Reference)
    (reference : Reference) (path : Path) (walk : Walk) (on : walk.OnBranch branch)
    : Ends branch (doc.walkReference mode budget branch reference path walk) := by
  induction budget generalizing branch reference path walk with
  | zero => exact ends_approach on fun _ _ => on.toRecorded
  | succ budget ih =>
      exact ends_approach on (ends_walkTarget (ih (reference :: branch)) path _ on)

/-- Named walks keep a record, by induction over their list. -/
theorem ends_walkInTurn (doc : Document) (mode : Mode) (budget : Nat)
    (named : List (String × List Step)) {walk : Walk} (on : walk.OnBranch [])
    : Ends [] (walkInTurn (doc.walkReference mode budget []) named walk) := by
  induction named generalizing walk with
  | nil => exact on
  | cons first rest ih =>
      have ends := ends_walkSteps (ends_walkReference doc mode budget []) .spec first.2 on
      simp only [walkInTurn]
      split
      · next after same =>
          rw [same] at ends
          exact ih ends
      · next same =>
          rw [same] at ends
          exact ends
      · next same =>
          rw [same] at ends
          exact ends

-----------------------------------------------------------------------------------------
-- What a walk that goes on leaves as it was
-----------------------------------------------------------------------------------------

/-- If the walk goes on, the references that are being visited are what they were, and those that
had passed are among those that have.
-/
def Restores (walker : Walker Breach) : Prop :=
  ∀ walk after,
    walker walk = (.done, after)
    → after.visiting = walk.visiting ∧ walk.validated ⊆ after.validated

theorem restores_walkSteps {goInto : Reference → Path → Walker Breach}
    (each : ∀ reference path, Restores (goInto reference path)) (branch : List Reference)
    (path : Path) (steps : List Step)
    : Restores (walkSteps goInto branch path steps) := by
  induction steps with
  | nil =>
      rintro walk _ ⟨⟩
      exact ⟨rfl, List.Subset.refl _⟩
  | cons step rest ih =>
      cases step with
      | fail violation place => nofun
      | follow reference place =>
          intro walk after done
          simp only [walkSteps] at done
          split at done
          · next middle first =>
              obtain ⟨same, grown⟩ := each _ _ _ _ first
              obtain ⟨again, further⟩ := ih _ _ done
              exact ⟨again.trans same, List.Subset.trans grown further⟩
          · next stops => exact (stops _ done).elim

theorem restores_walkTarget {goInto : Reference → Path → Walker Breach}
    (each : ∀ reference path, Restores (goInto reference path)) (branch : List Reference)
    (reference : Reference) (path : Path) (steps : List Step)
    : Restores (walkTarget goInto branch reference path steps) := by
  intro walk after done
  unfold walkTarget at done
  split at done
  · next inner first =>
      cases done
      obtain ⟨same, grown⟩ := restores_walkSteps each _ _ _ _ _ first
      refine ⟨?_, fun other passed => .tail _ (grown passed)⟩
      change inner.visiting.erase reference = walk.visiting
      rw [same]
      exact List.erase_cons_head reference walk.visiting
  · next stops => exact (stops _ done).elim

theorem restores_approach {mode : Mode} {reference : Reference} {path : Path}
    {target : Walker Breach} (restores : Restores target)
    : Restores (approach mode reference path target) := by
  intro walk after done
  unfold approach at done
  split at done
  · split at done
    · cases done
      exact ⟨rfl, List.Subset.refl _⟩
    · exact restores _ _ done
  · cases mode with
    | component =>
        cases done
        exact ⟨rfl, List.Subset.refl _⟩
    | document => cases done

/-- Following a reference restores the visited references from any state, by induction over the
budget.
-/
theorem restores_walkReference (doc : Document) (mode : Mode) (budget : Nat)
    (branch : List Reference) (reference : Reference) (path : Path)
    : Restores (doc.walkReference mode budget branch reference path) := by
  induction budget generalizing branch reference path with
  | zero => exact restores_approach nofun
  | succ budget ih =>
      exact restores_approach (restores_walkTarget (ih (reference :: branch)) _ _ _ _)

-----------------------------------------------------------------------------------------
-- The answer of a walk is the answer of the check
-----------------------------------------------------------------------------------------

/-- The answer of a walk, if it did not run out of its budget. -/
def answer? {ε : Type} : Ending ε × Walk → Option (Except ε (List Reference))
  | (.done, walk) => some (.ok walk.validated)
  | (.failed cause, _) => some (.error cause)
  | (.exhausted, _) => none

/-- On the branch the walker answers what the check does. -/
def Answers (branch : List Reference) (walker : Walker Breach) (check : Check) : Prop :=
  ∀ walk, walk.visiting = branch → answer? (walker walk) = some (check walk.validated)

/-- What follows a reference on the way through a target belongs to a target that exists. -/
theorem exists_target_of_follow {doc : Document} {reference next : Reference}
    {place : Path → Path} (member : .follow next place ∈ doc.targetSteps reference)
    : ∃ target, doc.target? reference = some target := by
  unfold Document.targetSteps at member
  split at member
  · exact ⟨_, ‹_›⟩
  · exact ⟨_, ‹_›⟩
  · simp at member

theorem answers_walkSteps {goInto : Reference → Path → Walker Breach}
    {follow : Reference → Path → Check} {branch : List Reference}
    (restores : ∀ reference path, Restores (goInto reference path)) (path : Path)
    (steps : List Step)
    (each
      : ∀ reference place,
          .follow reference place ∈ steps
          → Answers branch (goInto reference (place path)) (follow reference (place path)))
    : Answers branch (walkSteps goInto branch path steps) (perform follow path steps) := by
  induction steps with
  | nil => exact fun _ _ => rfl
  | cons step rest ih =>
      cases step with
      | fail violation place => exact fun _ _ => rfl
      | follow reference place =>
          intro walk on
          have first := each reference place (.head _) (walk.note branch) on
          have restored := restores reference (place path) (walk.note branch)
          have later := ih fun reference place member => each reference place (.tail _ member)
          simp only [walkSteps, perform, both]
          change _ = some (follow reference (place path) (walk.note branch).validated >>= _)
          cases result : goInto reference (place path) (walk.note branch) with
          | mk ending after =>
              rw [result] at first
              cases ending with
              | done =>
                  rw [← Option.some.inj first]
                  exact later after ((restored after result).1.trans on)
              | failed breach =>
                  rw [← Option.some.inj first]
                  rfl
              | exhausted => cases first

/-- Following a reference answers what the check of the reference does, if the budget is above the
number of references that are not being visited. By induction over the budget: each target that is
gone into leaves fewer of them, and one that does not exist has nothing to follow.
-/
theorem answers_walkReference (doc : Document) (mode : Mode) (budget : Nat)
    (branch : List Reference) (enough : doc.unvisited branch < budget) (reference : Reference)
    (path : Path)
    : Answers branch (doc.walkReference mode budget branch reference path)
        (doc.follow mode branch reference path) := by
  induction budget generalizing branch reference path with
  | zero => exact absurd enough (Nat.not_lt_zero _)
  | succ budget ih =>
      intro walk on
      cases inside : reference.isLocal with
      | false =>
          obtain ⟨text, rfl⟩ := Reference.eq_external_of_not_isLocal inside
          rw [Document.follow_external]
          cases mode <;> rfl
      | true =>
          rw [Document.follow_local doc mode branch path walk.validated inside, ← on]
          simp only [Document.walkReference, approach, inside, if_true]
          split
          · rfl
          · next unseen =>
              rw [Document.targetPart_eq_perform]
              have target
                  : answer?
                      (walkSteps (doc.walkReference mode budget (reference :: branch))
                        (reference :: branch) path (doc.targetSteps reference)
                        (walk.enter reference))
                    = some (perform (doc.follow mode (reference :: branch)) path
                        (doc.targetSteps reference) walk.validated) := by
                refine answers_walkSteps (restores_walkReference doc mode budget _) path _ ?_
                  (walk.enter reference) (congrArg (reference :: ·) on)
                intro next place member
                -- What has steps to follow exists, so one reference fewer is left for the budget.
                refine ih _ ?_ next (place path)
                have fresh : reference ∉ branch := on ▸ (not_or.mp unseen).2
                obtain ⟨target, found⟩ := exists_target_of_follow member
                have fewer :=
                  Document.unvisited_cons_lt (Document.mem_references_of_target? found) fresh
                omega
              rw [on]
              unfold walkTarget
              revert target
              generalize walkSteps (doc.walkReference mode budget (reference :: branch))
                (reference :: branch) path (doc.targetSteps reference) (walk.enter reference)
                = result
              obtain ⟨ending, after⟩ := result
              intro target
              cases ending with
              | done => rw [← Option.some.inj target]; rfl
              | failed breach => rw [← Option.some.inj target]; rfl
              | exhausted => cases target

variable (doc : Document) (mode : Mode) {budget : Nat}

/-- On a branch the walk of steps answers what taking the steps does. -/
theorem answers_steps {branch : List Reference} (enough : doc.unvisited branch < budget)
    (path : Path) (steps : List Step)
    : Answers branch (walkSteps (doc.walkReference mode budget branch) branch path steps)
        (perform (doc.follow mode branch) path steps) :=
  answers_walkSteps (restores_walkReference doc mode budget branch) path steps
    fun reference _ _ => answers_walkReference doc mode budget branch enough reference _

/-- Named walks answer what the named checks do, by induction over their list. -/
theorem answers_walkInTurn (enough : doc.references.length < budget)
    (named : List (String × List Step)) {walk : Walk} (on : walk.visiting = [])
    : answer? (walkInTurn (doc.walkReference mode budget []) named walk)
      = some
          (Document.inTurn
            (named.map fun (name, steps) => (name, perform (doc.follow mode []) .spec steps))
            walk.validated) := by
  induction named generalizing walk with
  | nil => rfl
  | cons first rest ih =>
      obtain ⟨name, steps⟩ := first
      have fits : doc.unvisited [] < budget := Nat.lt_of_le_of_lt List.countP_le_length enough
      have answered := answers_steps doc mode fits .spec steps walk on
      have restored :=
        restores_walkSteps (restores_walkReference doc mode budget []) [] .spec steps walk
      simp only [walkInTurn, List.map_cons, Document.inTurn]
      cases result : walkSteps (doc.walkReference mode budget []) [] .spec steps walk with
      | mk ending after =>
          rw [result] at answered
          cases ending with
          | done =>
              rw [← Option.some.inj answered]
              exact ih ((restored after result).1.trans on)
          | failed breach =>
              rw [← Option.some.inj answered]
              rfl
          | exhausted => cases answered

end Preflight

namespace Document

open Preflight

/-- A walk, given a budget, has the answer of a check, if the budget is above the number of entries
of the document; and whatever the budget, its record is sound, and no text of a reference belongs
to two targets that it went into.
-/
structure WalksFor (doc : Document) (answer : Except PreflightError Unit)
    (walk : (budget : Nat) → Ending PreflightError × Walk) : Prop where
  ends
    : ∀ budget > doc.types.length + doc.resources.length,
        (answer? (walk budget)).map (Except.map fun _ => ()) = some answer
  recorded : ∀ budget, (walk budget).2.Recorded
  once : ∀ budget, ((walk budget).2.started.map Reference.text).Nodup

/-- The check of shapes walks each target once. There are walks for the check of a component and for
that of a whole document, which end with the answers of the checks; and the walk of a reference or
of a node that goes on leaves the references that are being visited as they were, and those that
have passed among those that have, whatever state it begins in.
-/
structure EachTargetOnce (doc : Document) : Prop where
  component
    : ∀ component, doc.WalksFor (doc.preflight component) (doc.walkComponent · component)
  document : doc.WalksFor doc.preflightAll doc.walkAll
  reference
    : ∀ mode budget branch reference path,
        Restores (doc.walkReference mode budget branch reference path)
  node
    : ∀ mode budget branch value path,
        Restores (walkSteps (doc.walkReference mode budget branch) branch path (nodeSteps value))

/-- The text of a target that was gone into tells which one it is. -/
theorem nodup_texts {walk : Walk} (recorded : walk.Recorded)
    : (walk.started.map Reference.text).Nodup := by
  refine recorded.once.map_on fun first member second other same => ?_
  exact Reference.eq_of_text_eq (recorded.inside first member) (recorded.inside second other) same

theorem length_references (doc : Document)
    : doc.references.length = doc.types.length + doc.resources.length := by
  simp [references, Entries.names]

/-- The check of shapes walks each target once. -/
theorem eachTargetOnce (doc : Document) : doc.EachTargetOnce where
  component component := by
    have recorded (budget : Nat) : (doc.walkComponent budget component).2.Recorded :=
      (ends_walkInTurn doc .component budget _ .start).recorded
    refine ⟨fun budget enough => ?_, recorded, fun budget => nodup_texts (recorded budget)⟩
    rw [walkComponent,
      answers_walkInTurn doc .component (doc.length_references ▸ enough) _ rfl]
    simp only [Option.map_some, List.map_cons, List.map_nil, inTurn, preflight, inputs_eq_perform]
    cases perform (doc.follow .component []) .spec
      (inputSteps component.resource.inputProperties) [] <;> rfl
  document := by
    have recorded (budget : Nat) : (doc.walkAll budget).2.Recorded :=
      (ends_walkInTurn doc .document budget _ .start).recorded
    refine ⟨fun budget enough => ?_, recorded, fun budget => nodup_texts (recorded budget)⟩
    rw [walkAll, answers_walkInTurn doc .document (doc.length_references ▸ enough) _ rfl]
    simp only [Option.map_some, List.map_append, List.map_map, preflightAll, inputs_eq_perform,
      node_eq_perform]
    rfl
  reference := restores_walkReference doc
  node mode budget branch _ path :=
    restores_walkSteps (restores_walkReference doc mode budget branch) branch path _

end Document

end ComponentCrd
