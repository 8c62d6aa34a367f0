import ComponentCrd.Json.Text
import ComponentCrd.Proofs.Json.NumberReading
import ComponentCrd.Proofs.Manifest.NumberScalars

/-! Numbers read back from their own texts. A whole number is written with its digits, which are
collected to the number again as long as 64 bits hold it; so every whole number that is read reads
back. Of a double the text may be read as a neighbour.
-/

namespace ComponentCrd

open Json Decode

/-- The bytes of characters. -/
def utf8 (chars : List Char) : List UInt8 := chars.flatMap String.utf8EncodeChar

/-- The text of the number is a number, and is read as it. -/
def Number.ReadsBack (number : Number) : Prop :=
  ∃ text : NumberText, text.bytes = utf8 number.chars ∧ text.value? = some number

/-- A whole number fits into 64 bits, with a sign or without. -/
def Number.Fits : Number → Prop
  | .integer value => -(Nat.pow 2 63 : Int) ≤ value ∧ value ≤ largestSignificand
  | .float _ => True

namespace Json

-----------------------------------------------------------------------------------------
-- Digits
-----------------------------------------------------------------------------------------

section

variable {chars : List Char} (digits : ∀ c ∈ chars, c.isDigit)
include digits

theorem utf8_digits : utf8 chars = chars.map fun c => UInt8.ofNat c.toNat := by
  induction chars with
  | nil => rfl
  | cons c others ih =>
      have code := (Yaml.Reader.isDigit_range.mp (digits c (.head _))).2
      have ascii : String.utf8EncodeChar c = [UInt8.ofNat c.toNat] :=
        if_pos (show c.toNat ≤ 127 by omega)
      have rest := ih fun c member => digits c (.tail _ member)
      unfold utf8 at rest ⊢
      rw [List.flatMap_cons, ascii, rest]
      rfl

theorem isDigitByte_of_mem_utf8 {byte : UInt8} (member : byte ∈ utf8 chars) : isDigitByte byte := by
  rw [utf8_digits digits] at member
  obtain ⟨c, found, rfl⟩ := List.mem_map.mp member
  have code := Yaml.Reader.isDigit_range.mp (digits c found)
  rw [isDigitByte_iff, UInt8.toNat_ofNat']
  omega

theorem digitValues_utf8 : digitValues (utf8 chars) = chars.map fun c => c.toNat - 48 := by
  rw [utf8_digits digits, digitValues, List.map_map]
  refine List.map_congr_left fun c member => ?_
  have code := Yaml.Reader.isDigit_range.mp (digits c member)
  rw [Function.comp_apply, UInt8.toNat_ofNat']
  omega

end

/-- Digits are collected as long as the number that they make is small enough. -/
theorem collect_eq {significand : Nat} {digits : List Nat}
    (small
      : digits.foldl (fun number digit => 10 * number + digit) significand ≤ largestSignificand)
    : collect significand digits
      = (digits.foldl (fun number digit => 10 * number + digit) significand, digits.length, 0) := by
  have grows (digits : List Nat) (start : Nat)
      : start ≤ digits.foldl (fun number digit => 10 * number + digit) start := by
    induction digits generalizing start with
    | nil => exact Nat.le_refl _
    | cons digit rest ih => exact Nat.le_trans (by omega) (ih (10 * start + digit))
  induction digits generalizing significand with
  | nil => rfl
  | cons digit rest ih =>
      rw [List.foldl_cons, Nat.mul_comm 10 significand] at small ⊢
      have fits : ¬largestSignificand < significand * 10 + digit :=
        Nat.not_lt.mpr (Nat.le_trans (grows rest _) small)
      simp only [collect, fits, if_false, ih small]
      rfl

variable {n : Nat}

theorem isDigit_of_mem_toDigits {c : Char} (member : c ∈ Nat.toDigits 10 n) : c.isDigit :=
  Nat.isDigit_of_mem_toDigits (by decide) (by decide) member

/-- The digits of a number begin with a zero only if that is all. -/
theorem head_toDigits (positive : n ≠ 0) : (Nat.toDigits 10 n).head? ≠ some '0' := by
  induction n using Nat.strongRecOn with
  | ind n ih =>
      rw [Nat.toDigits_eq_if (by decide)]
      split
      · next small =>
          have all : ∀ digit < 10, digit ≠ 0 → [Nat.digitChar digit].head? ≠ some '0' := by decide
          exact all n small positive
      · have begins : Nat.toDigits 10 (n / 10) ≠ [] := Nat.toDigits_ne_nil
        obtain ⟨first, rest, same⟩ := List.exists_cons_of_ne_nil begins
        have before := ih (n / 10) (by omega) (by omega)
        rw [same] at before ⊢
        exact before

theorem wholePart_toDigits (n : Nat) : WholePart (utf8 (Nat.toDigits 10 n)) := by
  by_cases zero : n = 0
  · subst zero
    exact .inl rfl
  · have digits : ∀ c ∈ Nat.toDigits 10 n, c.isDigit := fun _ => isDigit_of_mem_toDigits
    have head := head_toDigits zero
    have begins : Nat.toDigits 10 n ≠ [] := Nat.toDigits_ne_nil
    obtain ⟨first, rest, same⟩ := List.exists_cons_of_ne_nil begins
    refine .inr ⟨UInt8.ofNat first.toNat, rest.map fun c => UInt8.ofNat c.toNat, ?_, ?_, ?_⟩
    · rw [utf8_digits digits, same]
      rfl
    · have code := Yaml.Reader.isDigit_range.mp (digits first (by simp [same]))
      rw [same, List.head?_cons, Ne, Option.some.injEq, ← Char.toNat_inj] at head
      change first.toNat ≠ 48 at head
      rw [Ne, ← UInt8.toNat_inj, UInt8.toNat_ofNat']
      change first.toNat % 2 ^ 8 ≠ 48
      omega
    · exact fun byte member => isDigitByte_of_mem_utf8 digits member

-----------------------------------------------------------------------------------------
-- Whole numbers
-----------------------------------------------------------------------------------------

/-- A whole number as it is spelled. -/
def wholeText (negative : Bool) (n : Nat) : NumberText where
  negative := negative
  whole := utf8 (Nat.toDigits 10 n)
  fraction := []
  exponent := []
  whole_digits := wholePart_toDigits n
  fraction_digits := .inl rfl
  exponent_digits := .inl rfl

theorem bytes_wholeText (negative : Bool) (n : Nat)
    : (wholeText negative n).bytes
      = utf8 ((if negative then ['-'] else []) ++ Nat.toDigits 10 n) := by
  have unsigned : (wholeText negative n).unsigned = utf8 (Nat.toDigits 10 n) := by
    simp only [NumberText.unsigned, wholeText, List.append_nil]
  rw [NumberText.bytes, unsigned]
  cases negative <;> rfl

theorem value?_wholeText (negative : Bool) (small : n ≤ largestSignificand)
    : (wholeText negative n).value? = some (wholeNumber negative n) := by
  have digits : ∀ c ∈ Nat.toDigits 10 n, c.isDigit := fun _ => isDigit_of_mem_toDigits
  have number
      : (digitValues (utf8 (Nat.toDigits 10 n))).foldl (fun number digit => 10 * number + digit) 0
        = n := by
    rw [digitValues_utf8 digits, List.foldl_map]
    exact Nat.ofDigitChars_ten_toDigits
  have collected := collect_eq (number.trans_le small)
  rw [number] at collected
  rw [NumberText.value?_eq, NumberText.ofDigits?]
  simp only [wholeText, collected]
  rfl

/-- Whole numbers read back as long as 64 bits hold them. -/
theorem readsBack_of_fits {value : Int} (fits : (Number.integer value).Fits)
    : (Number.integer value).ReadsBack := by
  obtain ⟨least, greatest⟩ := fits
  unfold Number.ReadsBack
  rw [Number.chars, Yaml.Reader.toList_toString]
  split
  · next positive =>
      refine ⟨wholeText false value.toNat, bytes_wholeText _ _, ?_⟩
      rw [value?_wholeText false (by omega), wholeNumber, if_neg (by decide),
        Int.toNat_of_nonneg positive]
  · next negative =>
      have large : Nat.pow 2 63 ≤ largestSignificand := by decide
      have fits : ¬((-value).toNat = 0 ∨ Nat.pow 2 63 < (-value).toNat) := by omega
      refine ⟨wholeText true (-value).toNat, bytes_wholeText _ _, ?_⟩
      rw [value?_wholeText true (by omega), wholeNumber, if_pos rfl, if_neg fits]
      congr 2
      omega

end Json

end ComponentCrd
