import Mathlib.Data.List.TakeDrop

/-! Lists that are cut where their first elements end and the others begin. -/

namespace ComponentCrd

variable {α : Type} {belongs : α → Bool} {first : List α}

/-- A list is cut where its first elements end and the others begin. -/
theorem cut_append (rest : List α) (all : ∀ element ∈ first, belongs element)
    (stops : rest.head?.all fun element => !belongs element)
    : (first ++ rest).takeWhile belongs = first ∧ (first ++ rest).dropWhile belongs = rest := by
  rw [List.takeWhile_append_of_pos all, List.dropWhile_append_of_pos all]
  cases rest with
  | nil => simp
  | cons next others =>
      have ends : belongs next = false := by simpa using stops
      simp [ends]

theorem span_append (rest : List α) (all : ∀ element ∈ first, belongs element)
    (stops : rest.head?.all fun element => !belongs element)
    : (first ++ rest).span belongs = (first, rest) := by
  obtain ⟨before, behind⟩ := cut_append rest all stops
  rw [List.span_eq_takeWhile_dropWhile, before, behind]

end ComponentCrd
