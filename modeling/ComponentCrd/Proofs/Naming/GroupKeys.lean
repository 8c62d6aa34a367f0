import ComponentCrd.Proofs.Naming.DashedNames

/-! Keys of groups. A key is the maximal runs of letters and digits in the lower case of a text with
single dashes between them. So it is nothing at all or it has the form of a label, and its own key
is the same. A group is made of a key unless the key is empty or too long for a label.
-/

namespace ComponentCrd

namespace Text

-----------------------------------------------------------------------------------------
-- Maximal runs
-----------------------------------------------------------------------------------------

/-- The maximal runs of characters with a property, in their order in a text. No character before a
run has the property, nor the one that follows it, nor any behind the last run.
-/
inductive MaximalRuns (property : Char → Prop) : List Char → List (List Char) → Prop
  | none {gap} (outside : ∀ c ∈ gap, ¬ property c) : MaximalRuns property gap []
  | run (gap : List Char) {run rest runs} (outside : ∀ c ∈ gap, ¬ property c)
    (nonempty : run ≠ []) (inside : ∀ c ∈ run, property c)
    (maximal : ∀ c ∈ rest.head?, ¬ property c) (others : MaximalRuns property rest runs)
    : MaximalRuns property (gap ++ run ++ rest) (run :: runs)

variable {property : Char → Prop} {text : List Char} {runs : List (List Char)}

/-- Every text has its maximal runs, by induction over the text: a character with the property makes
the run behind it longer, or is one of its own.
-/
theorem exists_maximalRuns (property : Char → Prop) (text : List Char)
    : ∃ runs, MaximalRuns property text runs := by
  induction text with
  | nil => exact ⟨[], .none (by simp)⟩
  | cons c rest ih =>
      obtain ⟨runs, found⟩ := ih
      by_cases own : property c
      · have alone : ∀ d ∈ [c], property d := by simpa using own
        cases found with
        | none outside =>
            have behind : ∀ d ∈ rest.head?, ¬ property d := fun d first =>
              outside d (List.mem_of_mem_head? first)
            exact ⟨_, .run [] (by simp) (by simp) alone behind (.none outside)⟩
        | @run gap run rest runs outside nonempty inside maximal others =>
            cases gap with
            | nil =>
                have longer : ∀ d ∈ c :: run, property d := List.forall_mem_cons.mpr ⟨own, inside⟩
                exact ⟨_, .run [] (by simp) (by simp) longer maximal others⟩
            | cons next gap =>
                have behind : ∀ d ∈ ((next :: gap) ++ run ++ rest).head?, ¬ property d := by
                  simpa using outside next List.mem_cons_self
                exact ⟨_, .run [] (by simp) (by simp) alone behind
                  (.run (next :: gap) outside nonempty inside maximal others)⟩
      · cases found with
        | none outside => exact ⟨_, .none (List.forall_mem_cons.mpr ⟨own, outside⟩)⟩
        | @run gap run rest runs outside nonempty inside maximal others =>
            have outside : ∀ d ∈ c :: gap, ¬ property d := List.forall_mem_cons.mpr ⟨own, outside⟩
            exact ⟨_, .run (c :: gap) outside nonempty inside maximal others⟩

/-- Runs are not empty, and all their characters have the property and come from the text. -/
theorem MaximalRuns.each (found : MaximalRuns property text runs)
    : ∀ run ∈ runs, run ≠ [] ∧ (∀ c ∈ run, property c) ∧ run ⊆ text := by
  induction found with
  | none => simp
  | @run gap run rest runs _ nonempty inside _ _ ih =>
      refine List.forall_mem_cons.mpr ⟨⟨nonempty, inside, ?_⟩, fun other member => ?_⟩
      · exact fun c member => by simp [member]
      · obtain ⟨nonempty, inside, included⟩ := ih other member
        exact ⟨nonempty, inside, fun c member => by simp [included member]⟩

/-- There is no run exactly if no character has the property. -/
theorem MaximalRuns.eq_nil_iff (found : MaximalRuns property text runs)
    : runs = [] ↔ ∀ c ∈ text, ¬ property c := by
  cases found with
  | none outside => simpa using outside
  | @run gap run rest runs _ nonempty inside _ _ =>
      have letter := List.head_mem nonempty
      refine iff_of_false (by simp) fun outside => ?_
      exact outside _ (by simp [letter]) (inside _ letter)

-----------------------------------------------------------------------------------------
-- Runs between dashes
-----------------------------------------------------------------------------------------

/-- The runs behind the first one, each with a dash in front. -/
def dashedRuns (runs : List (List Char)) : List Char := runs.flatMap ('-' :: ·)

/-- Joined runs are the first one and the others behind dashes, by induction over the others. -/
theorem intercalate_dash (run : List Char) (runs : List (List Char))
    : ['-'].intercalate (run :: runs) = run ++ dashedRuns runs := by
  induction runs generalizing run with
  | nil => simp [List.intercalate_singleton, dashedRuns]
  | cons next runs ih =>
      rw [List.intercalate_cons_cons, ih, dashedRuns, dashedRuns, List.flatMap_cons]
      simp

/-- Runs that are joined by dashes are found again, if a dash does not have the property. -/
theorem maximalRuns_intercalate (dash : ¬ property '-')
    (each : ∀ run ∈ runs, run ≠ [] ∧ ∀ c ∈ run, property c)
    : MaximalRuns property (['-'].intercalate runs) runs := by
  have behind {others : List (List Char)}
      (each : ∀ run ∈ others, run ≠ [] ∧ ∀ c ∈ run, property c)
      : MaximalRuns property (dashedRuns others) others
        ∧ ∀ c ∈ (dashedRuns others).head?, ¬ property c := by
    induction others with
    | nil => exact ⟨.none (by simp [dashedRuns]), by simp [dashedRuns]⟩
    | cons run others ih =>
        obtain ⟨⟨nonempty, inside⟩, each⟩ := List.forall_mem_cons.mp each
        obtain ⟨found, maximal⟩ := ih each
        have gap : ∀ c ∈ ['-'], ¬ property c := by simpa using dash
        exact ⟨.run ['-'] gap nonempty inside maximal found, by simpa [dashedRuns] using dash⟩
  cases runs with
  | nil => exact .none (by simp)
  | cons run others =>
      obtain ⟨⟨nonempty, inside⟩, each⟩ := List.forall_mem_cons.mp each
      obtain ⟨found, maximal⟩ := behind each
      rw [intercalate_dash]
      exact .run [] (by simp) nonempty inside maximal found

end Text

namespace Naming

variable {text gap run rest key : List Char} {runs : List (List Char)} {begun due : Bool}

-----------------------------------------------------------------------------------------
-- The walk along a text
-----------------------------------------------------------------------------------------

/-- Other characters make a dash due, however many there are. -/
theorem groupKeyFrom_gap (outside : ∀ c ∈ gap, ¬ isLabelEnd c)
    : groupKeyFrom begun due (gap ++ rest) = groupKeyFrom begun (due || !gap.isEmpty) rest := by
  induction gap generalizing due with
  | nil => simp
  | cons c gap ih =>
      obtain ⟨own, outside⟩ := List.forall_mem_cons.mp outside
      rw [List.cons_append, groupKeyFrom, if_neg own, ih outside]
      simp

/-- Letters and digits are kept as they are. -/
theorem groupKeyFrom_letters (inside : ∀ c ∈ run, isLabelEnd c)
    : groupKeyFrom true false (run ++ rest) = run ++ groupKeyFrom true false rest := by
  induction run with
  | nil => rfl
  | cons c run ih =>
      obtain ⟨own, inside⟩ := List.forall_mem_cons.mp inside
      rw [List.cons_append, groupKeyFrom, if_pos own, ih inside]
      rfl

/-- A run of letters and digits is kept, with a dash in front if one is due and there was a run
before it.
-/
theorem groupKeyFrom_run (nonempty : run ≠ []) (inside : ∀ c ∈ run, isLabelEnd c)
    : groupKeyFrom begun due (run ++ rest)
      = (if due && begun then ['-'] else []) ++ run ++ groupKeyFrom true false rest := by
  obtain ⟨c, run, rfl⟩ := List.exists_cons_of_ne_nil nonempty
  obtain ⟨own, inside⟩ := List.forall_mem_cons.mp inside
  rw [List.cons_append, groupKeyFrom, if_pos own, groupKeyFrom_letters inside]
  simp

/-- Behind a run, every further run is kept with a dash in front, by induction over the runs: a dash
is due before each of them, since something else has been met.
-/
theorem groupKeyFrom_later (found : Text.MaximalRuns (isLabelEnd ·) text runs)
    (apart : due ∨ ∀ c ∈ text.head?, ¬ isLabelEnd c)
    : groupKeyFrom true due text = Text.dashedRuns runs := by
  induction found generalizing due with
  | @none gap outside =>
      have gone : groupKeyFrom true due (gap ++ []) = _ := groupKeyFrom_gap outside
      rw [← List.append_nil gap, gone]
      rfl
  | @run gap run rest runs outside nonempty inside maximal others ih =>
      have isDue : (due || !gap.isEmpty) = true := by
        cases gap with
        | cons c gap => simp
        | nil =>
            obtain ⟨c, run, rfl⟩ := List.exists_cons_of_ne_nil nonempty
            rcases apart with already | other
            · simp [already]
            · exact (other c (by simp) (inside c List.mem_cons_self)).elim
      rw [List.append_assoc, groupKeyFrom_gap outside, groupKeyFrom_run nonempty inside, isDue,
        ih (.inr maximal)]
      simp [Text.dashedRuns]

/-- The key of a text is the maximal runs of letters and digits, joined by dashes. -/
theorem groupKeyFrom_runs (found : Text.MaximalRuns (isLabelEnd ·) text runs)
    : groupKeyFrom false false text = ['-'].intercalate runs := by
  cases found with
  | none outside =>
      have gone : groupKeyFrom false false (text ++ []) = _ := groupKeyFrom_gap outside
      rw [← List.append_nil text, gone]
      rfl
  | @run gap run rest runs outside nonempty inside maximal others =>
      rw [List.append_assoc, groupKeyFrom_gap outside, groupKeyFrom_run nonempty inside,
        groupKeyFrom_later others (.inr maximal), Bool.and_false, Text.intercalate_dash]
      rfl

-----------------------------------------------------------------------------------------
-- The form of a key
-----------------------------------------------------------------------------------------

/-- Runs behind dashes have single dashes. -/
theorem dashed_dashedRuns (each : ∀ run ∈ runs, run ≠ [] ∧ ∀ c ∈ run, isLabelEnd c)
    : Dashed (Text.dashedRuns runs) := by
  induction runs with
  | nil => exact .nil
  | cons run runs ih =>
      obtain ⟨⟨nonempty, inside⟩, others⟩ := List.forall_mem_cons.mp each
      obtain ⟨c, run, rfl⟩ := List.exists_cons_of_ne_nil nonempty
      obtain ⟨own, inside⟩ := List.forall_mem_cons.mp inside
      exact .dash own ((ih others).append inside)

/-- A key is empty, or a letter or digit and then a name with single dashes. -/
theorem groupKey_eq_nil_or (text : List Char)
    : groupKey text = []
      ∨ ∃ c rest, groupKey text = c :: rest ∧ isLabelEnd c ∧ Dashed rest := by
  obtain ⟨runs, found⟩ := Text.exists_maximalRuns (isLabelEnd ·) (text.flatMap Text.lower)
  rw [groupKey, groupKeyFrom_runs found]
  cases runs with
  | nil => exact .inl rfl
  | cons run runs =>
      obtain ⟨⟨nonempty, inside⟩, others⟩ := List.forall_mem_cons.mp fun run member =>
        (found.each run member).imp_right And.left
      obtain ⟨c, run, rfl⟩ := List.exists_cons_of_ne_nil nonempty
      obtain ⟨own, inside⟩ := List.forall_mem_cons.mp inside
      have dashed := (dashed_dashedRuns others).append inside
      exact .inr ⟨c, _, Text.intercalate_dash _ _, own, dashed⟩

theorem inner_groupKey (text : List Char) : ∀ c ∈ groupKey text, isLabelInner c :=
  inner_groupKeyFrom

/-- The key of a key is the key. Witness: a key is its own lower case, and its runs are those that
it was joined from.
-/
theorem groupKey_groupKey (text : List Char) : groupKey (groupKey text) = groupKey text := by
  obtain ⟨runs, found⟩ := Text.exists_maximalRuns (isLabelEnd ·) (text.flatMap Text.lower)
  have joined : groupKey text = ['-'].intercalate runs := groupKeyFrom_runs found
  have again : Text.MaximalRuns (isLabelEnd ·) (['-'].intercalate runs) runs :=
    Text.maximalRuns_intercalate (by decide)
      fun run member => (found.each run member).imp_right And.left
  calc groupKey (groupKey text)
      = groupKeyFrom false false (groupKey text) := by
        rw [groupKey, flatMap_lower_of_inner (inner_groupKey text)]
    _ = groupKey text := by rw [joined, groupKeyFrom_runs again]

-----------------------------------------------------------------------------------------
-- The laws of a key
-----------------------------------------------------------------------------------------

/-- An ASCII letter in lower case or a digit. -/
def IsKeyCharacter (c : Char) : Prop := ('a' ≤ c ∧ c ≤ 'z') ∨ ('0' ≤ c ∧ c ≤ '9')

/-- What the key of a text is: the maximal runs of letters and digits in the lower case of the text,
joined by single dashes. Unless there are none, it begins and ends with one of them, has no two
dashes next to each other and has the form of a label; and it is its own key.
-/
structure KeyOf (text key : List Char) : Prop where
  runs : ∃ runs, Text.MaximalRuns IsKeyCharacter (text.flatMap Text.lower) runs
  joined
    : ∀ runs, Text.MaximalRuns IsKeyCharacter (text.flatMap Text.lower) runs
        → key = ['-'].intercalate runs
  empty : key = [] ↔ ∀ c ∈ text.flatMap Text.lower, ¬ IsKeyCharacter c
  starts : key ≠ [] → ∃ c, key.head? = some c ∧ IsKeyCharacter c
  ends : key ≠ [] → ∃ c, key.getLast? = some c ∧ IsKeyCharacter c
  separated : ¬ ['-', '-'] <:+: key
  form : key ≠ [] → hasLabelForm key
  again : groupKey key = key

theorem isKeyCharacter_eq : IsKeyCharacter = fun c => isLabelEnd c = true :=
  funext fun _ => propext isLabelEnd_iff.symm

/-- The key of every text has the laws of a key. -/
theorem keyOf_groupKey (text : List Char) : KeyOf text (groupKey text) := by
  obtain ⟨runs, found⟩ := Text.exists_maximalRuns IsKeyCharacter (text.flatMap Text.lower)
  have joined (runs : List (List Char))
      (found : Text.MaximalRuns IsKeyCharacter (text.flatMap Text.lower) runs)
      : groupKey text = ['-'].intercalate runs := by
    rw [isKeyCharacter_eq] at found
    exact groupKeyFrom_runs found
  have nothing : groupKey text = [] ↔ runs = [] := by
    rw [joined runs found]
    cases runs with
    | nil => simp
    | cons run runs =>
        have nonempty := (found.each run List.mem_cons_self).1
        simp [Text.intercalate_dash, nonempty]
  have empty := nothing.trans found.eq_nil_iff
  have again := groupKey_groupKey text
  obtain none | ⟨c, rest, key, letter, dashed⟩ := groupKey_eq_nil_or text
  · rw [none] at joined empty again ⊢
    exact ⟨⟨runs, found⟩, joined, empty, by simp, by simp, by simp, by simp, again⟩
  · have name : Dashed (c :: rest) := .plain letter dashed
    have last := List.getLast?_eq_some_getLast (List.cons_ne_nil c rest)
    rw [key] at joined empty again ⊢
    refine ⟨⟨runs, found⟩, joined, empty, fun _ => ?_, fun _ => ?_, name.separated, fun _ => ?_,
      again⟩
    · exact ⟨c, rfl, isLabelEnd_iff.mp letter⟩
    · exact ⟨_, last, isLabelEnd_iff.mp (name.isLabelEnd_of_getLast? _ last)⟩
    · exact Dashed.hasLabelForm letter dashed

end Naming

-----------------------------------------------------------------------------------------
-- Groups from keys
-----------------------------------------------------------------------------------------

/-- The first segment of a text is what stands before the first separator. -/
theorem Text.headD_segments (separator : Char) (text : List Char)
    : (segments separator text).headD [] = text.takeWhile (· ≠ separator) := by
  induction text with
  | nil => rfl
  | cons c rest ih =>
      obtain ⟨first, others, cut⟩ := List.exists_cons_of_ne_nil (segments_ne_nil separator rest)
      rw [cut] at ih
      rw [segments, cut]
      split
      · next same => simp [same]
      · next apart =>
          rw [List.takeWhile_cons_of_pos (by simpa using apart), ← ih]
          rfl

namespace Identity

/-- The key for a group: that of the package's name or, only if it is empty, that of what stands
before the first colon of the token.
-/
def keyFor (packageName token : String) : String :=
  let named := Naming.groupKey packageName.toList
  String.ofList
    (if named = [] then Naming.groupKey (token.toList.takeWhile (· ≠ ':')) else named)

/-- How many bytes the key for a group takes. -/
def keySize (packageName token : String) : Nat :=
  (Text.toUtf8 (keyFor packageName token)).length

/-- With the suffix behind it a key that has the form of a label is a subdomain exactly if it is not
too long for a label: the suffix leaves room for every label.
-/
theorem admits_group_iff {key : List Char} (form : Naming.hasLabelForm key)
    : IdentityField.group.admits (String.ofList key ++ groupSuffix)
      ↔ key.length ≤ Naming.longestLabel := by
  have inner := Naming.inner_of_hasLabelForm form
  have suffix : (Text.segments '.' "components.platform".toList).all Naming.isLabel := by decide
  have room : key.length ≤ Naming.longestLabel
      → (key ++ '.' :: "components.platform".toList).length ≤ Naming.longestSubdomain := by
    intro short
    rw [List.length_append]
    exact Nat.le_trans (Nat.add_le_add_right short _) (by decide)
  rw [IdentityField.admits, toList_append_groupSuffix, Naming.isSubdomain, Bool.and_eq_true,
    decide_eq_true_iff, Text.segments_append, Naming.segments_of_inner inner,
    List.singleton_append, List.all_cons, suffix, Bool.and_true, Naming.isLabel_iff_of_form form]
  exact and_iff_right_of_imp room

/-- A group is the key with the suffix if the key has as many bytes as a label, and the default
otherwise.
-/
theorem groupOf_eq (packageName token : String)
    : groupOf packageName token
      = if 1 ≤ keySize packageName token ∧ keySize packageName token ≤ 63
        then keyFor packageName token ++ ".components.platform" else default.group := by
  obtain ⟨text, key, group⟩
      : ∃ text,
          keyFor packageName token = String.ofList (Naming.groupKey text)
          ∧ groupOf packageName token
            = if (Naming.groupKey text).isEmpty then default.group
              else admitted .group (String.ofList (Naming.groupKey text) ++ groupSuffix) := by
    by_cases unnamed : Naming.groupKey packageName.toList = []
    · refine ⟨token.toList.takeWhile (· ≠ ':'), ?_, ?_⟩
      · simp only [keyFor, unnamed, if_true]
      · simp only [groupOf, unnamed, List.isEmpty_nil, if_true, Text.headD_segments]
    · refine ⟨packageName.toList, ?_, ?_⟩
      · simp only [keyFor, unnamed, if_false]
      · simp only [groupOf, List.isEmpty_iff, unnamed, if_false]
  have laws := Naming.keyOf_groupKey text
  rw [group, keySize, key, Naming.length_toUtf8_of_inner (Naming.inner_groupKey text)]
  cases empty : Naming.groupKey text with
  | nil => rfl
  | cons c rest =>
      have form : Naming.hasLabelForm (c :: rest) := empty ▸ laws.form (by simp [empty])
      rw [List.isEmpty_cons, if_neg (by simp), admitted]
      refine if_congr ?_ rfl rfl
      rw [admits_group_iff form, Naming.longestLabel, List.length_cons]
      exact (and_iff_right (Nat.le_add_left 1 _)).symm

end Identity

/-- The key of a text is the runs of letters and digits in its lower case, joined by single dashes;
and the group of a package is made of the key for it, if that is a label, and else is the default.
-/
theorem keys_join_runs_and_name_groups
    : (∀ text, Naming.KeyOf text (Naming.groupKey text))
      ∧ ∀ packageName packageVersion token,
          (Identity.derive packageName packageVersion token).group
          = if 1 ≤ Identity.keySize packageName token ∧ Identity.keySize packageName token ≤ 63
            then Identity.keyFor packageName token ++ ".components.platform"
            else Identity.default.group := by
  refine ⟨Naming.keyOf_groupKey, fun packageName packageVersion token => ?_⟩
  rw [← Identity.groupOf_eq, Identity.derive]

example : Naming.groupKey "--\u0130, \u212A".toList = "i-k".toList := by decide

end ComponentCrd
