import ComponentCrd.Json.Value

/-! Entries put in order. Entries with distinct names lose nothing when they are put in the order of
their names, and increasing lists of the same entries are equal; so the union of entries without a
common name is determined by what it holds.
-/

namespace ComponentCrd.Entries

variable {α : Type} {name : String} {value : α} {entries first second : Entries α}

/-- The entries of two lists in one increasing list. -/
def union (first second : Entries α) : Entries α := ofList (first ++ second)

-----------------------------------------------------------------------------------------
-- One entry at its place
-----------------------------------------------------------------------------------------

/-- Entries increase exactly if their names do. -/
theorem increasing_iff : entries.Increasing ↔ entries.names.Pairwise (· < ·) := by
  rw [Increasing, names, List.pairwise_map]

/-- The names of increasing entries are distinct. -/
theorem Increasing.nodup (increasing : entries.Increasing) : entries.names.Nodup := by
  refine (increasing_iff.mp increasing).imp ?_
  rintro name _ less rfl
  exact String.lt_irrefl name less

/-- An entry of a new name is added. -/
theorem perm_put (fresh : name ∉ entries.names)
    : (put name value entries).Perm ((name, value) :: entries) := by
  induction entries with
  | nil => exact .refl _
  | cons entry rest ih =>
      obtain ⟨key, other⟩ := entry
      have differs : name ≠ key := fun same => fresh (by simp [names, same])
      have later : name ∉ names rest := fun member => fresh (.tail _ member)
      simp only [put, if_neg differs]
      split
      · exact .refl _
      · exact ((ih later).cons _).trans (.swap _ _ _)

/-- No name appears that was not there before. -/
theorem mem_of_mem_put {entry : String × α} (member : entry ∈ put name value entries)
    : entry = (name, value) ∨ entry ∈ entries := by
  induction entries with
  | nil => exact .inl (List.mem_singleton.mp member)
  | cons head rest ih =>
      obtain ⟨key, other⟩ := head
      simp only [put] at member
      split at member
      · exact List.mem_cons.mp member
      · split at member
        · rcases List.mem_cons.mp member with same | later
          · exact .inl same
          · exact .inr (.tail _ later)
        · rcases List.mem_cons.mp member with rfl | later
          · exact .inr (.head _)
          · exact (ih later).imp_right (.tail _)

/-- An entry put at its place keeps entries increasing, by induction over them. -/
theorem Increasing.put (increasing : entries.Increasing) (name : String) (value : α)
    : (put name value entries).Increasing := by
  induction entries with
  | nil => exact List.pairwise_singleton _ _
  | cons entry rest ih =>
      obtain ⟨key, other⟩ := entry
      obtain ⟨above, tail⟩ := List.pairwise_cons.mp increasing
      simp only [Entries.put]
      split
      · next less =>
          refine List.pairwise_cons.mpr ⟨?_, increasing⟩
          intro entry member
          rcases List.mem_cons.mp member with rfl | later
          · exact less
          · exact String.lt_trans less (above entry later)
      · split
        · next same =>
            subst same
            exact List.pairwise_cons.mpr ⟨above, tail⟩
        · next notLess differs =>
            have greater : key < name := by
              apply String.not_le.mp
              intro below
              exact differs (String.le_antisymm below (String.not_lt.mp notLess))
            refine List.pairwise_cons.mpr ⟨?_, ih tail⟩
            intro entry member
            rcases mem_of_mem_put member with rfl | later
            · exact greater
            · exact above entry later

-----------------------------------------------------------------------------------------
-- All entries of a list
-----------------------------------------------------------------------------------------

theorem increasing_foldl {sorted : Entries α} (increasing : sorted.Increasing)
    : (entries.foldl (fun sorted (name, value) => put name value sorted) sorted).Increasing := by
  induction entries generalizing sorted with
  | nil => exact increasing
  | cons entry rest ih => exact ih (increasing.put entry.1 entry.2)

/-- Entries put in order increase. -/
theorem increasing_ofList (entries : Entries α) : (ofList entries).Increasing :=
  increasing_foldl .nil

theorem perm_foldl {sorted : Entries α} (distinct : (names (entries ++ sorted)).Nodup)
    : (entries.foldl (fun sorted (name, value) => put name value sorted) sorted).Perm
        (entries ++ sorted) := by
  induction entries generalizing sorted with
  | nil => exact .refl _
  | cons entry rest ih =>
      obtain ⟨name, value⟩ := entry
      have moved : (rest ++ (name, value) :: sorted).Perm ((name, value) :: rest ++ sorted) :=
        List.perm_middle
      have apart : (names (rest ++ (name, value) :: sorted)).Nodup :=
        ((moved.map Prod.fst).nodup_iff).mpr distinct
      have fresh : name ∉ names sorted := by
        intro member
        simp only [names, List.map_append, List.map_cons] at apart
        exact (List.nodup_cons.mp (List.nodup_append.mp apart).2.1).1 member
      have step : (rest ++ put name value sorted).Perm (rest ++ (name, value) :: sorted) :=
        (perm_put fresh).append_left rest
      rw [List.foldl_cons]
      refine (ih ?_).trans (step.trans moved)
      exact ((step.map Prod.fst).nodup_iff).mpr apart

/-- Entries with distinct names are all there when they are put in order. -/
theorem perm_ofList (distinct : entries.names.Nodup) : (ofList entries).Perm entries := by
  have sorted := @perm_foldl α entries [] (by simpa only [List.append_nil] using distinct)
  simpa only [ofList, List.append_nil] using sorted

/-- Increasing lists of the same entries are equal. -/
theorem Increasing.eq_of_perm (increasing : first.Increasing) (other : second.Increasing)
    (same : first.Perm second)
    : first = second := by
  refine same.eq_of_pairwise ?_ increasing other
  intro a b _ _ less greater
  exact (String.lt_irrefl _ (String.lt_trans less greater)).elim

theorem increasing_union (first second : Entries α) : (first.union second).Increasing :=
  increasing_ofList _

/-- The union of entries without a common name holds exactly the entries of both. -/
theorem perm_union (increasing : first.Increasing) (other : second.Increasing)
    (disjoint : ∀ name ∈ first.names, name ∉ second.names)
    : (first.union second).Perm (first ++ second) := by
  refine perm_ofList ?_
  rw [names, List.map_append]
  refine List.nodup_append.mpr ⟨increasing.nodup, other.nodup, ?_⟩
  rintro name member _ common rfl
  exact disjoint name member common

end ComponentCrd.Entries
