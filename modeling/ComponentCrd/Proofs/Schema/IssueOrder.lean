import ComponentCrd.Proofs.SortedDistinct
import ComponentCrd.Schema.Skip

/-! Reports of what was left out stand for sets of issues. Their order compares every field of an
issue, so issues that it does not tell apart are the same one, and no repetition survives sorting.
-/

namespace ComponentCrd

/-- Issues that are equal in their order are equal. -/
instance : Std.LawfulEqCmp SkipIssue.compare where
  compare_self := by simp [SkipIssue.compare]
  eq_of_compare := by
    rintro ⟨component, path, reason⟩ ⟨component', path', reason'⟩ same
    simp only [SkipIssue.compare, Ordering.then_eq_eq, Std.LawfulEqCmp.compare_eq_iff_eq] at same
    obtain ⟨rfl, rfl, rfl⟩ := same
    rfl

/-- The order of issues is transitive, since it compares one text after the other. -/
instance : Std.TransCmp SkipIssue.compare :=
  inferInstanceAs
    (Std.TransCmp
      (compareLex (compareOn SkipIssue.path)
        (compareLex (compareOn SkipIssue.reason) (compareOn SkipIssue.component))))

namespace SkipIssue

/-- The path of an issue comes before that of another by code points, or else its reason, or else
its component.
-/
def Precedes (a b : SkipIssue) : Prop :=
  a.path < b.path
  ∨ a.path = b.path
    ∧ (a.reason < b.reason ∨ a.reason = b.reason ∧ a.component < b.component)

/-- An issue is less than those that it precedes. -/
theorem compare_eq_lt {a b : SkipIssue} : compare a b = .lt ↔ a.Precedes b := by
  have texts (first second : String) : Ord.compare first second = .lt ↔ first < second :=
    compareOfLessAndEq_eq_lt
  simp only [compare, Precedes, Ordering.then_eq_lt, texts, Std.LawfulEqCmp.compare_eq_iff_eq]

/-- Reports of issues and lists of names have the order of sets. -/
theorem setOrder_of_issues_and_names
    : SetOrder Precedes sorted ∧ SetOrder (· < ·) sortedNames :=
  ⟨setOrder_sortedDistinct fun _ _ => compare_eq_lt,
    setOrder_sortedDistinct fun _ _ => compareOfLessAndEq_eq_lt⟩

example
    : sorted [⟨"p:i:B", "spec.a", "type \"date\""⟩, ⟨"p:i:A", "spec.a", "type \"date\""⟩,
        ⟨"p:i:B", "spec.a", "type \"date\""⟩]
      = [⟨"p:i:A", "spec.a", "type \"date\""⟩, ⟨"p:i:B", "spec.a", "type \"date\""⟩] := by
  decide

end SkipIssue

end ComponentCrd
