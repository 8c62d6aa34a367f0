import ComponentCrd.Proofs.Naming.ObjectNames

/-! Names of letters and digits with single dashes between them. A name with a letter or a digit in
front has the form of a label, so that only its length decides whether it is one, and its letters
have no other lower case.
-/

namespace ComponentCrd.Naming

-----------------------------------------------------------------------------------------
-- What a label may hold is in lower case
-----------------------------------------------------------------------------------------

/-- Letters in lower case and digits by their codes. -/
theorem isLabelEnd_iff {c : Char}
    : isLabelEnd c ↔ ('a' ≤ c ∧ c ≤ 'z') ∨ ('0' ≤ c ∧ c ≤ '9') := by
  have range {low high : Char} : (decide (low ≤ c) && decide (c ≤ high)) ↔ low ≤ c ∧ c ≤ high := by
    rw [Bool.and_eq_true, decide_eq_true_iff, decide_eq_true_iff]
  rw [isLabelEnd, Bool.or_eq_true]
  exact or_congr range range

theorem inner_of_isLabelEnd {c : Char} (letter : isLabelEnd c) : isLabelInner c := by
  rw [isLabelInner, letter, Bool.true_or]

/-- A dash is neither a letter nor a digit. -/
theorem ne_dash_of_isLabelEnd {c : Char} (letter : isLabelEnd c) : c ≠ '-' := by
  rintro rfl
  exact absurd letter (by decide)

/-- The codes of letters in lower case. -/
theorem isLower_range {c : Char} : c.isLower ↔ 97 ≤ c.toNat ∧ c.toNat ≤ 122 := by
  refine Iff.trans (Bool.and_eq_true _ _).to_iff ?_
  exact and_congr decide_eq_true_iff decide_eq_true_iff

/-- The codes of capitals. -/
theorem isUpper_range {c : Char} : c.isUpper ↔ 65 ≤ c.toNat ∧ c.toNat ≤ 90 :=
  decide_eq_true_iff

/-- Only capitals have another lower case. -/
theorem toLower_of_not_isUpper {c : Char} (other : c.isUpper = false) : c.toLower = c :=
  dif_neg (of_decide_eq_false other)

/-- The lower case of a capital stands 32 codes behind it. -/
theorem toNat_toLower {c : Char} (upper : c.isUpper) : c.toLower.toNat = c.toNat + 32 := by
  have range := isUpper_range.mp upper
  have code : c.toLower.val = c.val + 32 := congrArg Char.val (dif_pos (of_decide_eq_true upper))
  have noCarry : c.toNat + 32 < 2 ^ 32 := by omega
  calc
    c.toLower.toNat = (c.val + 32).toNat := congrArg UInt32.toNat code
    _ = (c.toNat + 32) % 2 ^ 32 := UInt32.toNat_add c.val 32
    _ = c.toNat + 32 := Nat.mod_eq_of_lt noCarry

theorem isLower_toLower {c : Char} (letter : c.isAlpha) : c.toLower.isLower := by
  cases upper : c.isUpper with
  | true =>
      have range := isUpper_range.mp upper
      rw [isLower_range, toNat_toLower upper]
      omega
  | false =>
      rw [toLower_of_not_isUpper upper]
      refine ((Bool.or_eq_true _ _).mp letter).resolve_left ?_
      simp [upper]

theorem isUpper_of_inner {c : Char} (inner : isLabelInner c) : c.isUpper = false := by
  rw [Bool.eq_false_iff, ne_eq, isUpper_range]
  simp only [isLabelInner, isLabelEnd, Bool.or_eq_true, beq_iff_eq] at inner
  obtain (lower | digit) | rfl := inner
  · have code := isLower_range.mp lower
    omega
  · have code := Yaml.Reader.isDigit_range.mp digit
    omega
  · decide

/-- What a label may hold is its own lower case. -/
theorem lower_of_inner {c : Char} (inner : isLabelInner c) : Text.lower c = [c] := by
  have ascii : c.toNat < 0x7F := (ascii_of_inner inner).1.2
  have same : c.toLower = c := toLower_of_not_isUpper (isUpper_of_inner inner)
  rw [Text.lower, if_pos (by omega), same]

theorem flatMap_lower_of_inner {name : List Char} (inner : ∀ c ∈ name, isLabelInner c)
    : name.flatMap Text.lower = name := by
  induction name with
  | nil => rfl
  | cons c rest ih =>
      obtain ⟨first, others⟩ := List.forall_mem_cons.mp inner
      rw [List.flatMap_cons, lower_of_inner first, ih others, List.singleton_append]

/-- ASCII characters take one byte each. -/
theorem length_toUtf8_of_isAscii {name : List Char} (ascii : ∀ c ∈ name, Yaml.Reader.IsAscii c)
    : (Text.toUtf8 (String.ofList name)).length = name.length := by
  have single : ∀ c ∈ (String.ofList name).toList, c.utf8Size = 1 := by
    rw [String.toList_ofList]
    exact fun c member => Text.utf8Size_of_isAscii (ascii c member)
  rw [Text.length_toUtf8 single, String.toList_ofList]

/-- What a label may hold takes one byte a character. -/
theorem length_toUtf8_of_inner {name : List Char} (inner : ∀ c ∈ name, isLabelInner c)
    : (Text.toUtf8 (String.ofList name)).length = name.length :=
  length_toUtf8_of_isAscii fun c member => (ascii_of_inner (inner c member)).1

/-- Where a name has the form of a label, only its length can keep it from being one. -/
theorem isLabel_iff_of_form {name : List Char} (form : hasLabelForm name)
    : isLabel name ↔ name.length ≤ longestLabel := by
  rw [isLabel, form, Bool.and_true, decide_eq_true_iff]

theorem inner_of_hasLabelForm {name : List Char} (form : hasLabelForm name)
    : ∀ c ∈ name, isLabelInner c := by
  simp only [hasLabelForm, Bool.and_eq_true, List.all_eq_true] at form
  exact form.1.1

-----------------------------------------------------------------------------------------
-- Single dashes
-----------------------------------------------------------------------------------------

/-- Letters and digits, with a dash in front of some of them. -/
inductive Dashed : List Char → Prop
  | nil : Dashed []
  | plain {c rest} (letter : isLabelEnd c) (dashed : Dashed rest) : Dashed (c :: rest)
  | dash {c rest} (letter : isLabelEnd c) (dashed : Dashed rest) : Dashed ('-' :: c :: rest)

namespace Dashed

variable {c : Char} {name run rest : List Char}

/-- More letters and digits in front, by induction over them. -/
theorem append (letters : ∀ c ∈ run, isLabelEnd c) (dashed : Dashed rest)
    : Dashed (run ++ rest) := by
  induction run with
  | nil => exact dashed
  | cons first others ih =>
      obtain ⟨letter, letters⟩ := List.forall_mem_cons.mp letters
      exact .plain letter (ih letters)

theorem inner (dashed : Dashed name) : ∀ c ∈ name, isLabelInner c := by
  induction dashed with
  | nil => simp
  | plain letter _ ih => exact List.forall_mem_cons.mpr ⟨inner_of_isLabelEnd letter, ih⟩
  | dash letter _ ih =>
      exact List.forall_mem_cons.mpr
        ⟨by decide, List.forall_mem_cons.mpr ⟨inner_of_isLabelEnd letter, ih⟩⟩

/-- The name ends with a letter or a digit, if it is not empty. -/
theorem isLabelEnd_of_getLast? (dashed : Dashed name) : ∀ c ∈ name.getLast?, isLabelEnd c := by
  induction dashed with
  | nil => simp
  | @plain c rest letter _ ih =>
      cases rest with
      | nil => simpa using letter
      | cons next rest => simpa using ih
  | @dash c rest letter _ ih =>
      cases rest with
      | nil => simpa using letter
      | cons next rest => simpa using ih

/-- No two dashes stand next to each other. -/
theorem separated (dashed : Dashed name) : ¬ ['-', '-'] <:+: name := by
  induction dashed with
  | nil => simp
  | @plain c rest letter _ ih =>
      rw [List.infix_cons_iff, not_or]
      refine ⟨fun front => ?_, ih⟩
      exact ne_dash_of_isLabelEnd letter (List.cons_prefix_cons.mp front).1.symm
  | @dash c rest letter _ ih =>
      rw [List.infix_cons_iff, List.infix_cons_iff, not_or, not_or]
      refine ⟨fun front => ?_, fun front => ?_, ih⟩
      · have second := (List.cons_prefix_cons.mp front).2
        exact ne_dash_of_isLabelEnd letter (List.cons_prefix_cons.mp second).1.symm
      · exact ne_dash_of_isLabelEnd letter (List.cons_prefix_cons.mp front).1.symm

/-- There are at most as many dashes as other characters. -/
theorem length_le (dashed : Dashed name) : name.length ≤ 2 * (name.filter (· ≠ '-')).length := by
  induction dashed with
  | nil => simp
  | plain letter _ ih =>
      rw [List.filter_cons_of_pos (by simpa using ne_dash_of_isLabelEnd letter)]
      simp only [List.length_cons]
      omega
  | dash letter _ ih =>
      rw [List.filter_cons_of_neg (by simp),
        List.filter_cons_of_pos (by simpa using ne_dash_of_isLabelEnd letter)]
      simp only [List.length_cons]
      omega

/-- Behind a letter or a digit the name has the form of a label. -/
theorem hasLabelForm (letter : isLabelEnd c) (dashed : Dashed rest)
    : hasLabelForm (c :: rest) := by
  have name : Dashed (c :: rest) := .plain letter dashed
  have ends := List.getLast?_eq_some_getLast (List.cons_ne_nil c rest)
  simp only [Naming.hasLabelForm, Bool.and_eq_true, List.all_eq_true]
  refine ⟨⟨name.inner, letter⟩, ?_⟩
  rw [ends]
  exact name.isLabelEnd_of_getLast? _ ends

end Dashed

end ComponentCrd.Naming
