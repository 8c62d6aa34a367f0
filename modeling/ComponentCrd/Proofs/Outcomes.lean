import Mathlib.Data.List.Forall2

/-! Steps that may fail, one after the other: what their results and their errors come from. -/

namespace ComponentCrd

universe u v

variable {ε ε' : Type u} {α β : Type v}

theorem Except.bind_eq_ok {step : Except ε α} {next : α → Except ε β} {result : β}
    : step >>= next = .ok result ↔ ∃ middle, step = .ok middle ∧ next middle = .ok result := by
  cases step <;> simp [bind, Except.bind]

/-- Two steps fail where the first one does, or the second one behind it. -/
theorem Except.bind_eq_error {step : Except ε α} {next : α → Except ε β} {error : ε}
    : step >>= next = .error error
      ↔ step = .error error ∨ ∃ middle, step = .ok middle ∧ next middle = .error error := by
  cases step <;> simp [bind, Except.bind]

theorem Except.mapError_eq_ok {step : Except ε α} {wrap : ε → ε'} {result : α}
    : step.mapError wrap = .ok result ↔ step = .ok result := by
  cases step with
  | ok value =>
      constructor <;> intro same
      all_goals
        obtain rfl := Except.ok.inj same
        rfl
  | error cause => constructor <;> intro same <;> cases same

theorem Except.mapError_eq_error {step : Except ε α} {wrap : ε → ε'} {error : ε'}
    : step.mapError wrap = .error error ↔ ∃ cause, step = .error cause ∧ wrap cause = error := by
  cases step with
  | ok value =>
      constructor
      · intro same
        cases same
      · rintro ⟨_, same, _⟩
        cases same
  | error cause =>
      constructor
      · intro same
        exact ⟨cause, rfl, Except.error.inj same⟩
      · rintro ⟨_, same, rfl⟩
        obtain rfl := Except.error.inj same
        rfl

/-- A step that is seen to succeed has a result. -/
theorem Except.exists_of_isOk {step : Except ε α} (ok : step.isOk)
    : ∃ result, step = .ok result := by
  cases step with
  | ok result => exact ⟨result, rfl⟩
  | error cause => cases ok

theorem Except.toOption_eq_some {step : Except ε α} {result : α}
    : step.toOption = some result ↔ step = .ok result := by
  cases step <;> simp [Except.toOption]

theorem Except.toOption_eq_none {step : Except ε α}
    : step.toOption = none ↔ ∃ error, step = .error error := by
  cases step <;> simp [Except.toOption]

/-- A step for each element leads to the results of the elements, in their order. -/
theorem Except.forall₂_of_mapM {α β : Type} {ε : Type} {step : α → Except ε β}
    {elements : List α} {results : List β} (leads : elements.mapM step = .ok results)
    : List.Forall₂ (fun element result => step element = .ok result) elements results := by
  induction elements generalizing results with
  | nil =>
      obtain rfl := Except.ok.inj leads
      exact .nil
  | cons element rest ih =>
      rw [List.mapM_cons] at leads
      obtain ⟨result, first, leads⟩ := Except.bind_eq_ok.mp leads
      obtain ⟨others, behind, leads⟩ := Except.bind_eq_ok.mp leads
      obtain rfl := Except.ok.inj leads
      exact .cons first (ih behind)

/-- A step for each element fails with the error of one of them, by induction over the elements. -/
theorem Except.mapM_eq_error {α β : Type} {ε : Type} {step : α → Except ε β} {elements : List α}
    {error : ε} (fails : elements.mapM step = .error error)
    : ∃ element ∈ elements, step element = .error error := by
  induction elements with
  | nil => cases fails
  | cons element rest ih =>
      rw [List.mapM_cons] at fails
      rcases Except.bind_eq_error.mp fails with first | ⟨_, _, fails⟩
      · exact ⟨element, .head _, first⟩
      · rcases Except.bind_eq_error.mp fails with later | ⟨_, _, fails⟩
        · obtain ⟨other, member, fails⟩ := ih later
          exact ⟨other, .tail _ member, fails⟩
        · cases fails

end ComponentCrd
