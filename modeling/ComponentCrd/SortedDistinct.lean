/-! Lists as sets in increasing order: a list is sorted, and of neighbours that are the same only
the first one is kept.
-/

namespace ComponentCrd

variable {α : Type}

/-- Adds an element to a list in order, in front of the first one that is not below it. -/
def insertOrdered (compare : α → α → Ordering) (x : α) : List α → List α
  | [] => [x]
  | y :: rest =>
      if compare x y = .gt then y :: insertOrdered compare x rest else x :: y :: rest

/-- The elements of a list in order. Those that no order separates keep their places. -/
def stableSort (compare : α → α → Ordering) (elements : List α) : List α :=
  elements.foldr (insertOrdered compare) []

/-- The elements of a list in order, without those that are the same as the one before them. -/
def sortedDistinct [BEq α] (compare : α → α → Ordering) (elements : List α) : List α :=
  (stableSort compare elements).eraseReps

/-- The names of a list in increasing order, each once. -/
def sortedNames (names : List String) : List String := sortedDistinct compare names

end ComponentCrd
