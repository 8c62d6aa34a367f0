import ComponentCrd.Schema.Attempt

/-! Laws of attempts: which failures an attempt meets, passed over or in the end, and which of them
stop it.
-/

namespace ComponentCrd

/-- The failure stops the whole translation, and not only the property it arises in. -/
def Failure.Stops : Failure → Prop
  | .unsupported refusal => refusal.cause.severity = .hard
  | .malformed _ _ => True

namespace Attempt

variable {α β : Type} {attempt : Attempt α} {next : α → Attempt β} {failure : Failure}

/-- The attempt meets the failure: it passes over it, or fails with it. -/
def Meets (attempt : Attempt α) (failure : Failure) : Prop :=
  attempt.outcome = .error failure
  ∨ ∃ refusal ∈ attempt.skipped, failure = .unsupported refusal

/-- The attempt fails in a way that is not passed over. -/
def Halts (attempt : Attempt α) : Prop :=
  ∃ failure, attempt.outcome = .error failure ∧ failure.Stops

-----------------------------------------------------------------------------------------
-- The outcome of one attempt after the other
-----------------------------------------------------------------------------------------

theorem bind_of_ok {result : α} (ok : attempt.outcome = .ok result)
    : attempt >>= next
      = ⟨attempt.skipped ++ (next result).skipped, (next result).outcome⟩ := by
  change attempt.andThen next = _
  simp only [andThen, ok]

theorem bind_of_error (error : attempt.outcome = .error failure)
    : attempt >>= next = ⟨attempt.skipped, .error failure⟩ := by
  change attempt.andThen next = _
  simp only [andThen, error]

theorem map_eq_bind (f : α → β) (attempt : Attempt α)
    : f <$> attempt = attempt >>= fun result => pure (f result) :=
  rfl

/-- An attempt that only goes on with its result is the attempt itself. -/
theorem bind_pure (attempt : Attempt α) : (attempt >>= fun result => pure result) = attempt := by
  cases outcome : attempt.outcome with
  | ok result =>
      rw [bind_of_ok outcome]
      cases attempt
      simp_all [pure]
  | error failure =>
      rw [bind_of_error outcome, ← outcome]

/-- Two attempts in a row succeed exactly if both do. -/
theorem outcome_bind_eq_ok {result : β}
    : (attempt >>= next).outcome = .ok result
      ↔ ∃ middle, attempt.outcome = .ok middle ∧ (next middle).outcome = .ok result := by
  cases outcome : attempt.outcome with
  | ok middle => simp [bind_of_ok outcome]
  | error failure => simp [bind_of_error outcome]

/-- Passing over failures leaves those that stop. -/
theorem outcome_orSkip_eq_error
    : attempt.orSkip.outcome = .error failure
      ↔ attempt.outcome = .error failure ∧ failure.Stops := by
  unfold orSkip
  split
  · next result ok => simp [ok]
  · next refusal error =>
      rw [error]
      split
      · next skippable =>
          simp only [reduceCtorEq, Except.error.injEq, false_iff, not_and]
          rintro rfl stops
          exact nomatch skippable.symm.trans stops
      · next hard =>
          simp only [Except.error.injEq]
          exact ⟨fun same => ⟨same, same ▸ hard⟩, And.left⟩
  · next other unsupported error =>
      rw [error]
      cases other with
      | unsupported refusal => exact (unsupported refusal rfl).elim
      | malformed path cause =>
          simp only [Except.error.injEq]
          exact ⟨fun same => ⟨same, same ▸ trivial⟩, And.left⟩

-----------------------------------------------------------------------------------------
-- Failures that are met
-----------------------------------------------------------------------------------------

theorem not_meets_pure (result : α) : ¬ (pure result : Attempt α).Meets failure := by
  rintro (error | ⟨refusal, member, _⟩)
  · cases error
  · cases member

theorem meets_fail {other : Failure}
    : (fail other : Attempt α).Meets failure ↔ failure = other := by
  constructor
  · rintro (error | ⟨refusal, member, _⟩)
    · exact (Except.error.inj error).symm
    · cases member
  · rintro rfl
    exact .inl rfl

theorem meets_ofCheck {path : Path} {check : Except Rejection α}
    : (ofCheck path check).Meets failure
      ↔ ∃ cause, check = .error cause ∧ failure = .unsupported ⟨path, cause⟩ := by
  cases check with
  | ok result => simp [ofCheck, not_meets_pure]
  | error cause => simp [ofCheck, refuse, meets_fail]

/-- Two attempts in a row meet what the first meets and, if it succeeds, what the second meets. -/
theorem meets_bind
    : (attempt >>= next).Meets failure
      ↔ attempt.Meets failure
        ∨ ∃ middle, attempt.outcome = .ok middle ∧ (next middle).Meets failure := by
  cases outcome : attempt.outcome with
  | ok middle =>
      simp only [Meets, bind_of_ok outcome, outcome, List.mem_append, Except.ok.injEq, reduceCtorEq,
        false_or, exists_eq_left', or_and_right, exists_or]
      exact or_left_comm
  | error other => simp [Meets, bind_of_error outcome, outcome]

theorem meets_map {f : α → β} : (f <$> attempt).Meets failure ↔ attempt.Meets failure := by
  rw [map_eq_bind, meets_bind]
  simp [not_meets_pure]

/-- Passing over a failure does not unmake that it was met. -/
theorem meets_orSkip : attempt.orSkip.Meets failure ↔ attempt.Meets failure := by
  unfold orSkip
  split
  · next result ok => simp [Meets, ok]
  · next refusal error =>
      split
      · simp only [Meets, error, List.mem_append, List.mem_singleton, reduceCtorEq, false_or,
          or_and_right, exists_or, exists_eq_left, Except.error.injEq]
        rw [or_comm, eq_comm]
      · simp [Meets, error]
  · next other _ error => simp [Meets, error]

-----------------------------------------------------------------------------------------
-- Attempts that halt
-----------------------------------------------------------------------------------------

theorem halts_fail (stops : failure.Stops) : (fail failure : Attempt α).Halts :=
  ⟨failure, rfl, stops⟩

theorem Halts.bind (halts : attempt.Halts) : (attempt >>= next).Halts := by
  obtain ⟨failure, error, stops⟩ := halts
  exact ⟨failure, by rw [bind_of_error error], stops⟩

theorem Halts.bind_of_ok {result : α} (ok : attempt.outcome = .ok result)
    (halts : (next result).Halts)
    : (attempt >>= next).Halts := by
  obtain ⟨failure, error, stops⟩ := halts
  exact ⟨failure, by rw [Attempt.bind_of_ok ok]; exact error, stops⟩

theorem Halts.map {f : α → β} (halts : attempt.Halts) : (f <$> attempt).Halts := halts.bind

theorem Halts.orSkip (halts : attempt.Halts) : attempt.orSkip.Halts := by
  obtain ⟨failure, error, stops⟩ := halts
  exact ⟨failure, outcome_orSkip_eq_error.mpr ⟨error, stops⟩, stops⟩

-----------------------------------------------------------------------------------------
-- Properties of results
-----------------------------------------------------------------------------------------

/-- If the attempt has a result, it has the property. -/
def Yields (attempt : Attempt α) (property : α → Prop) : Prop :=
  ∀ result, attempt.outcome = .ok result → property result

variable {property : α → Prop} {later : β → Prop}

theorem yields_any (attempt : Attempt α) : attempt.Yields fun _ => True := fun _ _ => trivial

theorem yields_pure {result : α} (holds : property result)
    : (pure result : Attempt α).Yields property := by
  rintro _ ⟨⟩
  exact holds

theorem yields_fail : (fail failure : Attempt α).Yields property := nofun

/-- Two attempts in a row yield what the second yields after any result of the first. -/
theorem Yields.bind (first : attempt.Yields property)
    (second : ∀ middle, property middle → (next middle).Yields later)
    : (attempt >>= next).Yields later := by
  intro result ok
  obtain ⟨middle, before, after⟩ := outcome_bind_eq_ok.mp ok
  exact second middle (first middle before) result after

theorem Yields.map {f : α → β} (yields : attempt.Yields fun result => later (f result))
    : (f <$> attempt).Yields later := by
  rw [map_eq_bind]
  exact yields.bind fun _ holds => yields_pure holds

/-- What is left after passing over a failure has the property. -/
theorem Yields.orSkip (yields : attempt.Yields property)
    : attempt.orSkip.Yields fun kept? => ∀ result ∈ kept?, property result := by
  intro kept? ok result kept
  obtain rfl := Option.mem_def.mp kept
  unfold Attempt.orSkip at ok
  split at ok
  · next result outcome =>
      cases ok
      exact yields _ outcome
  · split at ok <;> cases ok
  · cases ok

theorem yields_ofCheck {path : Path} {check : Except Rejection α}
    (holds : ∀ result, check = .ok result → property result)
    : (ofCheck path check).Yields property := by
  cases check with
  | ok result => exact yields_pure (holds result rfl)
  | error cause => exact yields_fail

end Attempt

end ComponentCrd
