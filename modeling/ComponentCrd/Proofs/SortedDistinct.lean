import ComponentCrd.SortedDistinct
import Mathlib.Data.List.Perm.Basic

/-! Lists as sets: sorting puts equal elements next to each other, so that dropping repeated
neighbours leaves each element once. The sorted list is strictly increasing and has exactly the
elements of the list it comes from, and so it does not depend on their order and number.
-/

namespace ComponentCrd

open Std

variable {α : Type} {compare : α → α → Ordering}

/-- The elements increase strictly, so each stands once. -/
def Ascending (compare : α → α → Ordering) (elements : List α) : Prop :=
  elements.Pairwise (fun a b => compare a b = .lt)

/-- No element stands behind a greater one. -/
def InOrder (compare : α → α → Ordering) (elements : List α) : Prop :=
  elements.Pairwise (fun a b => compare a b ≠ .gt)

-----------------------------------------------------------------------------------------
-- Sorting
-----------------------------------------------------------------------------------------

/-- Inserting an element adds it and nothing else, by induction over the list. -/
theorem perm_insertOrdered (x : α) (elements : List α)
    : (insertOrdered compare x elements).Perm (x :: elements) := by
  induction elements with
  | nil => exact .refl _
  | cons head rest ih =>
      unfold insertOrdered
      split
      · exact (ih.cons head).trans (.swap x head rest)
      · exact .refl _

/-- A sorted list is a rearrangement of the list. -/
theorem perm_stableSort (elements : List α) : (stableSort compare elements).Perm elements := by
  induction elements with
  | nil => exact .refl _
  | cons head rest ih => exact (perm_insertOrdered head _).trans (ih.cons head)

/-- Inserting an element keeps a list in order. Witness: it passes the elements below it, and those
behind the first one that is not are not below it either.
-/
theorem ordered_insertOrdered [TransCmp compare] {x : α} {elements : List α}
    (ordered : InOrder compare elements)
    : InOrder compare (insertOrdered compare x elements) := by
  induction elements with
  | nil => exact List.pairwise_singleton _ _
  | cons head rest ih =>
      obtain ⟨above, tail⟩ := List.pairwise_cons.mp ordered
      unfold insertOrdered
      split
      · next greater =>
          refine List.pairwise_cons.mpr ⟨?_, ih tail⟩
          intro y member
          rcases List.mem_cons.mp ((perm_insertOrdered x rest).mem_iff.mp member) with rfl | later
          · rw [OrientedCmp.gt_iff_lt.mp greater]
            decide
          · exact above y later
      · next notGreater =>
          refine List.pairwise_cons.mpr ⟨?_, ordered⟩
          rintro y (_ | ⟨_, member⟩)
          · exact notGreater
          · have below := TransCmp.isLE_trans (Ordering.ne_gt_iff_isLE.mp notGreater)
              (Ordering.ne_gt_iff_isLE.mp (above y member))
            exact Ordering.ne_gt_iff_isLE.mpr below

/-- A sorted list is in order, by induction over the list. -/
theorem ordered_stableSort [TransCmp compare] (elements : List α)
    : InOrder compare (stableSort compare elements) := by
  induction elements with
  | nil => exact .nil
  | cons head rest ih => exact ordered_insertOrdered ih

-----------------------------------------------------------------------------------------
-- Dropping repeated neighbours
-----------------------------------------------------------------------------------------

section Neighbours

variable [BEq α]

/-- What the loop has kept so far stands before what it goes on to keep. -/
theorem eraseReps_loop (last : α) (elements kept : List α)
    : List.eraseRepsBy.loop (· == ·) last elements kept
      = kept.reverse ++ List.eraseRepsBy.loop (· == ·) last elements [] := by
  induction elements generalizing last kept with
  | nil => simp [List.eraseRepsBy.loop]
  | cons head rest ih =>
      simp only [List.eraseRepsBy.loop]
      split
      · exact ih last kept
      · rw [ih head (last :: kept), ih head [last]]
        simp

/-- Of two neighbours that are the same the second one is dropped, and otherwise both count. -/
theorem eraseReps_cons_cons (first second : α) (rest : List α)
    : (first :: second :: rest).eraseReps
      = if first == second then (first :: rest).eraseReps
        else first :: (second :: rest).eraseReps := by
  simp only [List.eraseReps, List.eraseRepsBy, List.eraseRepsBy.loop]
  split
  · next same => rw [if_pos same]
  · next apart =>
      rw [if_neg (by simp [apart]), eraseReps_loop]
      rfl

variable [LawfulBEq α]

/-- Dropping repeated neighbours loses no element, by induction over the neighbours. -/
theorem mem_eraseReps {y : α} {elements : List α} : y ∈ elements.eraseReps ↔ y ∈ elements := by
  cases elements with
  | nil => rfl
  | cons first rest =>
      induction rest generalizing first with
      | nil => rfl
      | cons second rest ih =>
          rw [eraseReps_cons_cons]
          split
          · next same =>
              obtain rfl := eq_of_beq same
              simp [ih]
          · simp [ih]

/-- Where a list is in order, the elements that are the same are neighbours: without the repeated
ones it increases strictly. Witness: an element that is kept is below its neighbour, and so below
all that stand behind it.
-/
theorem ascending_eraseReps [LawfulEqCmp compare] [TransCmp compare] {elements : List α}
    (ordered : InOrder compare elements)
    : Ascending compare elements.eraseReps := by
  cases elements with
  | nil => exact .nil
  | cons first rest =>
      induction rest generalizing first with
      | nil => exact List.pairwise_singleton _ _
      | cons second rest ih =>
          obtain ⟨aboveFirst, tail⟩ := List.pairwise_cons.mp ordered
          obtain ⟨aboveSecond, others⟩ := List.pairwise_cons.mp tail
          rw [eraseReps_cons_cons]
          split
          · have aboveFirst := fun y member => aboveFirst y (List.mem_cons_of_mem _ member)
            exact ih first (List.pairwise_cons.mpr ⟨aboveFirst, others⟩)
          · next apart =>
              have less : compare first second = .lt := by
                have notGreater := aboveFirst second List.mem_cons_self
                cases order : compare first second with
                | lt => rfl
                | eq => exact (apart (beq_of_eq (LawfulEqCmp.eq_of_compare order))).elim
                | gt => exact (notGreater order).elim
              refine List.pairwise_cons.mpr ⟨?_, ih second tail⟩
              intro y member
              rcases List.mem_cons.mp (mem_eraseReps.mp member) with rfl | later
              · exact less
              · have notGreater := Ordering.ne_gt_iff_isLE.mp (aboveSecond y later)
                exact TransCmp.lt_of_lt_of_isLE less notGreater

/-- The sorted list has exactly the elements of the list. -/
theorem mem_sortedDistinct {elements : List α} {y : α}
    : y ∈ sortedDistinct compare elements ↔ y ∈ elements := by
  rw [sortedDistinct, mem_eraseReps, (perm_stableSort elements).mem_iff]

/-- The sorted list is strictly increasing. -/
theorem ascending_sortedDistinct [LawfulEqCmp compare] [TransCmp compare] (elements : List α)
    : Ascending compare (sortedDistinct compare elements) :=
  ascending_eraseReps (ordered_stableSort elements)

end Neighbours

-----------------------------------------------------------------------------------------
-- Sorted lists of distinct elements
-----------------------------------------------------------------------------------------

section Laws

variable [LawfulEqCmp compare]

/-- The elements behind the first of an increasing list differ from it. -/
theorem Ascending.head_not_mem {x : α} {rest : List α} (ascending : Ascending compare (x :: rest))
    : x ∉ rest := by
  intro member
  have less := (List.pairwise_cons.mp ascending).1 x member
  have same : compare x x = .eq := ReflCmp.compare_self
  exact nomatch same.symm.trans less

variable [TransCmp compare]

/-- Two increasing lists of the same elements are equal. Witness: the head of each is an element of
the other, so neither can come first.
-/
theorem eq_of_ascending {first second : List α} (ascending : Ascending compare first)
    (other : Ascending compare second) (same : ∀ x, x ∈ first ↔ x ∈ second)
    : first = second := by
  induction first generalizing second with
  | nil =>
      cases second with
      | nil => rfl
      | cons y rest => exact nomatch (same y).mpr (.head _)
  | cons x rest ih =>
      cases second with
      | nil => exact nomatch (same x).mp (.head _)
      | cons y others =>
          obtain ⟨above, tail⟩ := List.pairwise_cons.mp ascending
          obtain ⟨aboveOther, tailOther⟩ := List.pairwise_cons.mp other
          obtain rfl : x = y := by
            rcases List.mem_cons.mp ((same x).mp (.head _)) with equal | later
            · exact equal
            rcases List.mem_cons.mp ((same y).mpr (.head _)) with equal | earlier
            · exact equal.symm
            · have greater := OrientedCmp.gt_iff_lt.mpr (aboveOther x later)
              exact nomatch greater.symm.trans (above y earlier)
          refine congrArg (x :: ·) (ih tail tailOther fun z => ⟨fun member => ?_, fun member => ?_⟩)
          · rcases List.mem_cons.mp ((same z).mp (.tail _ member)) with rfl | later
            · exact (ascending.head_not_mem member).elim
            · exact later
          · rcases List.mem_cons.mp ((same z).mpr (.tail _ member)) with rfl | later
            · exact (other.head_not_mem member).elim
            · exact later

end Laws

-----------------------------------------------------------------------------------------
-- Lists in the order of a set
-----------------------------------------------------------------------------------------

/-- The lists that come out stand for sets. They increase strictly and have exactly the elements of
the lists that they come from, each once; no other list does, and so the lists that come out are the
same exactly if those that go in have the same elements, in whatever order and number.
-/
structure SetOrder (less : α → α → Prop) (arrange : List α → List α) : Prop where
  increasing : ∀ elements, (arrange elements).Pairwise less
  once : ∀ elements, (arrange elements).Nodup
  complete : ∀ elements x, x ∈ arrange elements ↔ x ∈ elements
  only
    : ∀ elements result, result.Pairwise less → (∀ x, x ∈ result ↔ x ∈ elements)
        → arrange elements = result
  ofSet
    : ∀ first second, arrange first = arrange second ↔ ∀ x, x ∈ first ↔ x ∈ second
  permuted : ∀ first second, first.Perm second → arrange first = arrange second
  repeated : ∀ elements more, more ⊆ elements → arrange (elements ++ more) = arrange elements
  absorbs : ∀ first second, arrange (arrange first ++ second) = arrange (first ++ second)
  idempotent : ∀ elements, arrange (arrange elements) = arrange elements

/-- Sorting with repetitions dropped gives lists the order of sets. Witness: the laws follow from
the first one and the elements, since increasing lists of the same elements are equal.
-/
theorem setOrder_sortedDistinct [BEq α] [LawfulBEq α] [LawfulEqCmp compare] [TransCmp compare]
    {less : α → α → Prop} (order : ∀ a b, compare a b = .lt ↔ less a b)
    : SetOrder less (sortedDistinct compare) := by
  have same {first second : List α} (members : ∀ x, x ∈ first ↔ x ∈ second)
      : sortedDistinct compare first = sortedDistinct compare second := by
    refine eq_of_ascending (ascending_sortedDistinct _) (ascending_sortedDistinct _) fun x => ?_
    rw [mem_sortedDistinct, mem_sortedDistinct, members x]
  constructor
  case increasing =>
    exact fun elements => (ascending_sortedDistinct elements).imp fun less => (order _ _).mp less
  case once =>
    refine fun elements => (ascending_sortedDistinct elements).imp ?_
    rintro x _ less rfl
    have equal : compare x x = .eq := ReflCmp.compare_self
    exact nomatch equal.symm.trans less
  case complete => exact fun _ _ => mem_sortedDistinct
  case only =>
    intro elements result increasing members
    have ascending : Ascending compare result := increasing.imp fun less => (order _ _).mpr less
    refine eq_of_ascending (ascending_sortedDistinct elements) ascending fun x => ?_
    rw [mem_sortedDistinct, members]
  case ofSet =>
    refine fun first second => ⟨fun equal x => ?_, same⟩
    calc x ∈ first
        ↔ x ∈ sortedDistinct compare first := mem_sortedDistinct.symm
      _ ↔ x ∈ sortedDistinct compare second := by rw [equal]
      _ ↔ x ∈ second := mem_sortedDistinct
  case permuted => exact fun _ _ rearranged => same fun _ => rearranged.mem_iff
  case repeated =>
    refine fun elements more included => same fun x => ?_
    rw [List.mem_append]
    exact or_iff_left_of_imp (@included x)
  case absorbs =>
    refine fun first second => same fun x => ?_
    rw [List.mem_append, List.mem_append, mem_sortedDistinct]
  case idempotent => exact fun _ => same fun _ => mem_sortedDistinct

/-- Sorted names increase strictly by code points. -/
theorem increasing_sortedNames (names : List String)
    : (sortedNames names).Pairwise (· < ·) := by
  have ascending : Ascending compare (sortedNames names) := ascending_sortedDistinct names
  exact ascending.imp fun less => compareOfLessAndEq_eq_lt.mp less

/-- Sorted names are exactly the names of the list. -/
theorem mem_sortedNames {names : List String} {name : String}
    : name ∈ sortedNames names ↔ name ∈ names :=
  mem_sortedDistinct

/-- Names in increasing order are sorted already. -/
theorem sortedNames_of_increasing {names : List String} (increasing : names.Pairwise (· < ·))
    : sortedNames names = names := by
  have ascending : Ascending compare names :=
    increasing.imp fun less => compareOfLessAndEq_eq_lt.mpr less
  exact eq_of_ascending (ascending_sortedDistinct names) ascending fun _ => mem_sortedNames

end ComponentCrd
