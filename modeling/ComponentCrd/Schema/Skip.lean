import ComponentCrd.Schema.Failure
import ComponentCrd.SortedDistinct

/-! Reports of schema paths that were left out, in a fixed order and each once. -/

namespace ComponentCrd

/-- A schema path that was left out of the translation of a component. -/
structure SkipIssue where
  component : String
  path : String
  reason : String
deriving DecidableEq, Repr

namespace SkipIssue

/-- The warning line of an issue. -/
def warning (issue : SkipIssue) : String :=
  "warning: skipped unsupported schema path \"" ++ issue.path ++ "\" for component \""
    ++ issue.component ++ "\": " ++ issue.reason

/-- Issues are ordered by path, then reason, then component. -/
def compare (a b : SkipIssue) : Ordering :=
  (Ord.compare a.path b.path).then
    ((Ord.compare a.reason b.reason).then (Ord.compare a.component b.component))

/-- The issues of a list in order, each once. -/
def sorted (issues : List SkipIssue) : List SkipIssue := sortedDistinct compare issues

end SkipIssue

/-- The report of an unsupported construct that was left out. -/
def Unsupported.issue (u : Unsupported) : SkipIssue := ⟨u.component, u.path, u.summary⟩

/-- The report of a refusal in a component. -/
def Refusal.issue (refusal : Refusal) (component : String) : SkipIssue :=
  (refusal.unsupported component).issue

end ComponentCrd
