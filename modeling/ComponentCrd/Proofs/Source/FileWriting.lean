import ComponentCrd.Proofs.Outcomes
import ComponentCrd.Source.FileTree
import Mathlib.Data.List.Basic

/-! A file that was written can be read back through the same path. Nothing that the path went
through is lost by the writing: every directory is still there, with the names it had.
-/

namespace ComponentCrd.Source.FileTree

-----------------------------------------------------------------------------------------
-- What stands where
-----------------------------------------------------------------------------------------

theorem at?_directory (entries : List (String × FileTree)) (name : String) (rest : List String)
    : (directory entries).at? (name :: rest)
      = (entries.lookup name).bind fun entry => entry.at? rest := by
  rw [at?]
  cases entries.lookup name <;> rfl

/-- Names that are followed one list after the other, by induction over the first. -/
theorem at?_append (tree : FileTree) (first second : List String)
    : tree.at? (first ++ second) = (tree.at? first).bind fun inner => inner.at? second := by
  induction first generalizing tree with
  | nil => rfl
  | cons name rest ih =>
      cases tree with
      | file content => rfl
      | directory entries =>
          rw [List.cons_append, at?_directory, at?_directory]
          cases entries.lookup name with
          | none => rfl
          | some entry => exact ih entry

/-- An entry that takes the place of those of its name leaves the others as they are. -/
theorem lookup_replaced (entries : List (String × FileTree)) (entry : FileTree)
    (name other : String)
    : ((name, entry) :: entries.filter (·.1 != name)).lookup other
      = if other = name then some entry else entries.lookup other := by
  rw [List.lookup_cons]
  by_cases same : other = name
  · simp [same]
  · rw [if_neg same, beq_false_of_ne same]
    induction entries with
    | nil => rfl
    | cons head rest ih =>
        rw [List.lookup_cons]
        by_cases dropped : head.1 = name
        · have differs : (other == head.1) = false := beq_false_of_ne (dropped ▸ same)
          rw [List.filter_cons_of_neg (by simp [dropped]), differs]
          exact ih
        · rw [List.filter_cons_of_pos (by simp [dropped]), List.lookup_cons]
          cases other == head.1
          · exact ih
          · rfl

/-- What was put somewhere stands there. -/
theorem at?_put (tree entry : FileTree) (path : List String)
    : (tree.put entry path).at? path = some entry := by
  induction path generalizing tree with
  | nil => rfl
  | cons name rest ih =>
      cases tree with
      | file content | directory entries =>
          rw [put, at?_directory, List.lookup_cons, beq_self_eq_true]
          exact ih _

-----------------------------------------------------------------------------------------
-- What a path goes through
-----------------------------------------------------------------------------------------

/-- Every directory of the first tree is one of the second, with no name lost. -/
def Within (tree larger : FileTree) : Prop :=
  ∀ place entries, tree.at? place = some (.directory entries)
    → ∃ more, larger.at? place = some (.directory more)
        ∧ ∀ name, (entries.lookup name).isSome → (more.lookup name).isSome

/-- A path leads to the same place in a larger tree, by induction over its parts. -/
theorem Within.follow {tree larger : FileTree} (within : tree.Within larger) {parts : List String}
    {start place : List String} (leads : tree.follow start parts = .ok place)
    : larger.follow start parts = .ok place := by
  induction parts generalizing start with
  | nil => exact leads
  | cons part rest ih =>
      rw [FileTree.follow] at leads ⊢
      cases here : tree.at? start with
      | none => simp [here] at leads
      | some inner =>
          cases inner with
          | file content => simp [here] at leads
          | directory entries =>
              obtain ⟨more, there, kept⟩ := within start entries here
              simp only [here, there] at leads ⊢
              split
              · next stays => exact ih (by simpa only [if_pos stays] using leads)
              · next goes =>
                  simp only [if_neg goes] at leads
                  split
                  · next up => exact ih (by simpa only [if_pos up] using leads)
                  · next down =>
                      simp only [if_neg down] at leads
                      split
                      · next long => simp only [if_pos long, reduceCtorEq] at leads
                      · next short =>
                          simp only [if_neg short] at leads
                          cases found : (entries.lookup part).isSome with
                          | false => simp [found] at leads
                          | true =>
                              rw [if_pos (kept part found)]
                              exact ih (by simpa only [found, if_true] using leads)

/-- A directory whose entries are one replaced by a larger one and the others is larger. -/
theorem within_replaced {entries : List (String × FileTree)} {name : String} {entry : FileTree}
    (inside : ∀ inner, entries.lookup name = some inner → inner.Within entry)
    : (directory entries).Within (directory ((name, entry) :: entries.filter (·.1 != name))) := by
  intro place found here
  cases place with
  | nil =>
      obtain rfl : entries = found := by simpa [at?] using here
      refine ⟨_, rfl, fun other present => ?_⟩
      rw [lookup_replaced]
      split
      · rfl
      · exact present
  | cons other rest =>
      rw [at?_directory] at here ⊢
      rw [lookup_replaced]
      obtain ⟨inner, entered, there⟩ := Option.bind_eq_some_iff.mp here
      split
      · next same => exact inside inner (same ▸ entered) rest found there
      · rw [entered]
        exact ⟨found, there, fun _ present => present⟩

/-- A file put into a directory in place of what is no directory leaves every directory in the tree,
by induction over the names that lead to the directory.
-/
theorem within_put {tree : FileTree} {place : List String} {entries : List (String × FileTree)}
    (here : tree.at? place = some (.directory entries)) {name : String}
    (free : ∀ inner, entries.lookup name ≠ some (.directory inner)) (content : List UInt8)
    : tree.Within (tree.put (.file content) (place ++ [name])) := by
  induction place generalizing tree with
  | nil =>
      obtain rfl : tree = .directory entries := by simpa [at?] using here
      refine within_replaced fun inner found rest names there => ?_
      cases inner with
      | directory other => exact (free other found).elim
      | file other => cases rest <;> simp [at?] at there
  | cons first rest ih =>
      cases tree with
      | file other => simp [at?] at here
      | directory top =>
          rw [at?_directory] at here
          obtain ⟨next, found, there⟩ := Option.bind_eq_some_iff.mp here
          rw [List.cons_append, put]
          refine within_replaced fun inner same => ?_
          obtain rfl : next = inner := Option.some.inj (found.symm.trans same)
          simpa only [found, Option.getD_some] using ih there

-----------------------------------------------------------------------------------------
-- Reading what was written
-----------------------------------------------------------------------------------------

/-- A list that loses nothing from its end, and does not end in the default, is its beginning and a
last element that is not dropped.
-/
theorem eq_append_of_kept {parts : List String}
    (kept : parts.length ≤ (parts.reverse.dropWhile (· = "")).length)
    (last : parts.getLastD "." ≠ ".")
    : parts = parts.dropLast ++ [parts.getLastD "."] ∧ parts.getLastD "." ≠ "" := by
  obtain ⟨above, name, rfl⟩ : ∃ above name, parts = above ++ [name] := by
    rcases List.eq_nil_or_concat parts with rfl | ⟨above, name, eq⟩
    · exact (last rfl).elim
    · exact ⟨above, name, by rw [eq, List.concat_eq_append]⟩
  rw [List.getLastD_concat, List.dropLast_concat]
  refine ⟨rfl, ?_⟩
  rintro rfl
  have dropped : (above.reverse.dropWhile (· = "")).length ≤ above.reverse.length :=
    (List.dropWhile_suffix _).length_le
  rw [List.reverse_concat, List.dropWhile_cons_of_pos (by simp)] at kept
  simp only [List.length_append, List.length_singleton, List.length_reverse] at kept dropped
  omega

/-- What a writing that succeeds has done: the path but for its last part leads to a directory, and
the file stands in it under that part, in place of what is no directory.
-/
theorem write_eq_ok {tree after : FileTree} {current : List String} {path : String}
    {content : List UInt8} (wrote : tree.write current path content = .ok after)
    : ∃ above name place entries,
        checkPath path = .ok ()
        ∧ parts path = above ++ [name]
        ∧ name ≠ "" ∧ name ≠ "." ∧ name ≠ ".." ∧ name.utf8ByteSize ≤ longestName
        ∧ tree.follow (if isAbsolute path then [] else current) above = .ok place
        ∧ tree.at? place = some (.directory entries)
        ∧ (∀ inner, entries.lookup name ≠ some (.directory inner))
        ∧ after = tree.put (.file content) (place ++ [name]) := by
  unfold write at wrote
  obtain ⟨_, sound, wrote⟩ := Except.bind_eq_ok.mp wrote
  dsimp only at wrote
  generalize (if isAbsolute path then [] else current) = start at wrote ⊢
  generalize named : ((parts path).reverse.dropWhile (· = "")).reverse = trimmed at wrote
  split at wrote
  · obtain ⟨_, _, wrote⟩ := Except.bind_eq_ok.mp wrote
    cases wrote
  next proper =>
  obtain ⟨⟨place, entries⟩, above, wrote⟩ := Except.bind_eq_ok.mp wrote
  split at wrote
  · cases wrote
  next whole =>
  split at wrote
  · cases wrote
  next short =>
  -- Nothing was dropped from the end, or the path would have been refused for its slashes there.
  have kept : (parts path).length ≤ ((parts path).reverse.dropWhile (· = "")).length := by
    simpa [← named] using whole
  obtain rfl : parts path = trimmed := by
    rw [← named, eq_comm, ← List.reverse_inj, List.reverse_reverse]
    exact (List.dropWhile_suffix _).eq_of_length_le (by simpa using kept)
  rw [not_or] at proper
  obtain ⟨split, nonempty⟩ := eq_append_of_kept kept proper.1
  obtain ⟨found, leads, above⟩ := Except.bind_eq_ok.mp above
  cases here : tree.at? found with
  | none => simp [here] at above
  | some inner =>
      cases inner with
      | file other => simp [here] at above
      | directory others =>
          simp only [here] at above
          obtain ⟨rfl, rfl⟩ := Prod.mk.inj (Except.ok.inj above)
          split at wrote
          · cases wrote
          · next free =>
              refine ⟨_, _, found, others, sound, split, nonempty, proper.1, proper.2,
                Nat.not_lt.mp short, leads, here, free, ?_⟩
              exact (Except.ok.inj wrote).symm

/-- The parts of a path are followed one list after the other, by induction over the first. -/
theorem follow_append (tree : FileTree) (start first second : List String)
    : tree.follow start (first ++ second)
      = tree.follow start first >>= fun place => tree.follow place second := by
  induction first generalizing start with
  | nil => rfl
  | cons part rest ih =>
      rw [List.cons_append, follow, follow]
      simp only [ih]
      cases tree.at? start with
      | none => rfl
      | some inner =>
          cases inner with
          | file content => rfl
          | directory entries =>
              dsimp only
              repeat' split
              all_goals rfl

/-- A file that was written is read back through the same path. -/
theorem read_of_write {tree after : FileTree} {current : List String} {path : String}
    {content : List UInt8} (wrote : tree.write current path content = .ok after)
    : after.read current path = .ok content := by
  obtain ⟨above, name, place, entries, sound, split, named, here, up, short, leads, found, free,
    rfl⟩ := write_eq_ok wrote
  have within := within_put found free content
  have stands := at?_put tree (.file content) (place ++ [name])
  generalize tree.put (.file content) (place ++ [name]) = after at within stands
  obtain ⟨more, there, _⟩ := within place entries found
  have inside : (more.lookup name).isSome := by
    rw [at?_append, there, Option.bind_some, at?_directory] at stands
    obtain ⟨entry, entered, _⟩ := Option.bind_eq_some_iff.mp stands
    rw [entered]
    rfl
  have arrives : after.follow place [name] = .ok (place ++ [name]) := by
    simp [follow, there, named, here, up, Nat.not_lt.mpr short, inside]
  have whole
      : after.follow (if isAbsolute path then [] else current) (parts path)
        = .ok (place ++ [name]) := by
    rw [split, follow_append, within.follow leads]
    exact arrives
  simp only [read, sound, bind, Except.bind, whole, stands]
  rfl

end ComponentCrd.Source.FileTree
