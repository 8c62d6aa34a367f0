import ComponentCrd.Schema.Failure

/-! Attempts at a translation: a result or a failure, together with the refusals that were passed
over on the way. What was passed over counts also when the attempt fails in the end.
-/

namespace ComponentCrd

/-- The outcome of an attempt and the refusals passed over, in the order in which they were met.
-/
structure Attempt (α : Type) where
  skipped : List Refusal
  outcome : Except Failure α

namespace Attempt

variable {α β : Type}

/-- Goes on with a result; refusals add up. -/
def andThen (attempt : Attempt α) (next : α → Attempt β) : Attempt β :=
  match attempt.outcome with
  | .ok result => ⟨attempt.skipped ++ (next result).skipped, (next result).outcome⟩
  | .error failure => ⟨attempt.skipped, .error failure⟩

instance : Monad Attempt where
  pure result := ⟨[], .ok result⟩
  bind := andThen

/-- An attempt that fails. -/
def fail (failure : Failure) : Attempt α := ⟨[], .error failure⟩

/-- An attempt that fails at an unsupported construct. -/
def refuse (path : Path) (cause : Rejection) : Attempt α := fail (.unsupported ⟨path, cause⟩)

/-- An attempt that fails at a malformed node. -/
def malformed (path : Path) (cause : Malformation) : Attempt α := fail (.malformed path cause)

/-- The result of a check, or a failure at the path. -/
def ofCheck (path : Path) : Except Rejection α → Attempt α
  | .ok result => pure result
  | .error cause => refuse path cause

/-- Passes over a failure that does no more harm than to lose the result. -/
def orSkip (attempt : Attempt α) : Attempt (Option α) :=
  match attempt.outcome with
  | .ok result => ⟨attempt.skipped, .ok (some result)⟩
  | .error (.unsupported refusal) =>
      match refusal.cause.severity with
      | .skippable => ⟨attempt.skipped ++ [refusal], .ok none⟩
      | .hard => ⟨attempt.skipped, .error (.unsupported refusal)⟩
  | .error failure => ⟨attempt.skipped, .error failure⟩

end Attempt

end ComponentCrd
