import ComponentCrd.Json.Text
import ComponentCrd.Proofs.Json.DecimalTexts
import ComponentCrd.Proofs.Manifest.PlainScalars

/-! The text of a number is a plain scalar: an integer that stands for itself, or a floating-point
number, whose value is left to the reader of decimal numbers.
-/

namespace ComponentCrd.Yaml.Reader

-----------------------------------------------------------------------------------------
-- Decimal digits
-----------------------------------------------------------------------------------------

/-- One digit more makes a number ten times as large, and adds the digit. -/
theorem numberOf?_concat {digits : List Char} {n digit : Nat} {c : Char}
    (before : Text.numberOf? 10 digits = some n) (last : Text.digitValue? 10 c = some digit)
    : Text.numberOf? 10 (digits ++ [c]) = some (n * 10 + digit) := by
  obtain ⟨values, read, rfl⟩ := Option.map_eq_some_iff.mp before
  simp [Text.numberOf?, List.mapM_append, read, last, Text.ofDigits]

theorem digitValue?_digitChar {digit : Nat} (small : digit < 10)
    : Text.digitValue? 10 (Nat.digitChar digit) = some digit := by
  have all : ∀ digit < 10, Text.digitValue? 10 (Nat.digitChar digit) = some digit := by decide
  exact all digit small

/-- The decimal digits of a number stand for it, by recursion on the digits. -/
theorem numberOf?_toDigits (n : Nat) : Text.numberOf? 10 (Nat.toDigits 10 n) = some n := by
  rw [Nat.toDigits_eq_if (by decide)]
  split
  · next small => simp [Text.numberOf?, digitValue?_digitChar small, Text.ofDigits]
  · rw [numberOf?_concat (numberOf?_toDigits (n / 10))
      (digitValue?_digitChar (Nat.mod_lt n (by decide)))]
    congr 1
    omega

theorem natural?_toDigits (n : Nat) : natural? 10 (Nat.toDigits 10 n) = some n := by
  rw [natural?, numberOf?_toDigits]
  simp

/-- The decimal digits of a number begin with a digit. -/
theorem toDigits_begins (n : Nat)
    : ∃ first rest, Nat.toDigits 10 n = first :: rest ∧ first.isDigit := by
  have nonempty : Nat.toDigits 10 n ≠ [] := Nat.toDigits_ne_nil
  obtain ⟨first, rest, same⟩ := List.exists_cons_of_ne_nil nonempty
  have member : first ∈ Nat.toDigits 10 n := by simp [same]
  exact ⟨first, rest, same, Nat.isDigit_of_mem_toDigits (by decide) (by decide) member⟩

-----------------------------------------------------------------------------------------
-- Texts made of digits and marks
-----------------------------------------------------------------------------------------

/-- The marks that stand in numbers beside digits. -/
def numberMarks : List Char := ['+', '-', '.', 'e']

/-- The text begins like a number and holds nothing that does not belong to one. -/
structure Numeric (text : List Char) : Prop where
  chars : ∀ c ∈ text, c.isDigit ∨ c ∈ numberMarks
  begins
    : ∃ first rest, first.isDigit ∧ (text = first :: rest ∨ text = '-' :: first :: rest)

variable {text : List Char}

/-- A character that is neither a digit nor a mark does not stand in a number. -/
theorem Numeric.not_mem (numeric : Numeric text) {c : Char} (digit : c.isDigit = false)
    (mark : c ∉ numberMarks)
    : c ∉ text := by
  intro member
  rcases numeric.chars c member with isDigit | isMark
  · exact nomatch isDigit.symm.trans digit
  · exact mark isMark

/-- A digit does not occur among other characters. -/
theorem not_mem_of_isDigit {c : Char} (digit : c.isDigit) {others : List Char}
    (marks : others.all fun d => !d.isDigit)
    : c ∉ others := by
  intro member
  simpa [digit] using List.all_eq_true.mp marks c member

/-- A number begins with a dash or a digit. -/
theorem Numeric.head (numeric : Numeric text)
    : ∃ first rest, text = first :: rest ∧ (first = '-' ∨ first.isDigit) := by
  obtain ⟨first, rest, digit, rfl | rfl⟩ := numeric.begins
  · exact ⟨first, rest, rfl, .inr digit⟩
  · exact ⟨'-', first :: rest, rfl, .inl rfl⟩

theorem Numeric.isTextChar (numeric : Numeric text) {c : Char} (member : c ∈ text)
    : isTextChar c := by
  rcases numeric.chars c member with digit | mark
  · have := isDigit_range.mp digit
    simp only [Reader.isTextChar, Bool.or_eq_true, Bool.and_eq_true, decide_eq_true_eq]
    omega
  · have marks : numberMarks.all Reader.isTextChar := by decide
    exact List.all_eq_true.mp marks c mark

/-- A number may stand as a plain scalar. -/
theorem Numeric.isPlainScalar (numeric : Numeric text) : isPlainScalar text := by
  have colon : ':' ∉ text := numeric.not_mem (by decide) (by decide)
  have blank : ' ' ∉ text := numeric.not_mem (by decide) (by decide)
  simp only [Reader.isPlainScalar, Bool.and_eq_true]
  refine ⟨⟨?_, goesOnPlain_of_simple colon blank⟩, ?_⟩
  · obtain ⟨first, rest, digit, rfl | rfl⟩ := numeric.begins
    · have noIndicator : first ∉ indicators := not_mem_of_isDigit digit (by decide)
      have noBlank : first ≠ ' ' := by
        rintro rfl
        cases digit
      simp [beginsPlain, noIndicator, noBlank]
    · have noBlank : first ≠ ' ' := by
        rintro rfl
        cases digit
      simp [beginsPlain, noBlank]
  · exact List.all_eq_true.mpr fun c member => numeric.isTextChar member

/-- No word of the schema begins with a dash or a digit. -/
theorem words_lookup_of_head {first : Char} {rest : List Char}
    (number : first = '-' ∨ first.isDigit)
    : words.lookup (String.ofList (first :: rest)) = none := by
  have heads : ∀ word ∈ words, word.1.toList.head?.any fun c => c != '-' && !c.isDigit := by decide
  cases found : words.lookup (String.ofList (first :: rest)) with
  | none => rfl
  | some value =>
      have head := heads _ (Entries.mem_of_lookup found)
      rw [String.toList_ofList] at head
      rcases number with rfl | digit
      · cases head
      · simp [digit] at head

theorem Numeric.isSpecialFloat (numeric : Numeric text) : isSpecialFloat text = false := by
  obtain ⟨first, rest, digit, same⟩ := numeric.begins
  have point : first ≠ '.' := by
    rintro rfl
    cases digit
  have ordinary : first ∉ ['-', '+'] := not_mem_of_isDigit digit (by decide)
  rcases same with rfl | rfl
  · refine isSpecialFloat_of_head (by simpa using point) ?_
    rw [unsigned_of_ordinary ordinary]
    simpa using point
  · exact isSpecialFloat_of_head (by simp) (by simpa [unsigned] using point)

/-- A number is no word of the schema and no special float. -/
theorem Numeric.resolve?_eq (float? : List Char → Option Binary64) (numeric : Numeric text)
    : resolve? float? text
      = match integer? text with
        | some value => some (.number (.integer value))
        | none =>
            if isFloat text then (float? text).map fun value => .number (.float value)
            else some (.string (String.ofList text)) := by
  obtain ⟨first, rest, same, number⟩ := numeric.head
  rw [resolve?, numeric.isSpecialFloat, same, words_lookup_of_head number]
  rfl

/-- What begins like a number is no item. -/
theorem Numeric.noItem (numeric : Numeric text) : dash? text = none := by
  obtain ⟨first, rest, digit, rfl | rfl⟩ := numeric.begins
  · refine dash?_of_ne ?_
    rintro rfl
    cases digit
  · unfold dash?
    split
    · next same => cases same
    · next same =>
        obtain rfl : first = ' ' := (List.cons.inj (List.cons.inj same).2).1
        cases digit
    · rfl

/-- A number stands for what it resolves to. -/
theorem Numeric.standsFor {float? : List Char → Option Binary64} {value : Json}
    (numeric : Numeric text) (resolved : resolve? float? text = some value)
    : StandsFor float? text value := by
  have colon : ':' ∉ text := numeric.not_mem (by decide) (by decide)
  have linebreak : '\n' ∉ text := numeric.not_mem (by decide) (by decide)
  have noItem := numeric.noItem
  have read : plain? float? text = some value := by
    rw [plain?, if_pos numeric.isPlainScalar, resolved]
  obtain ⟨first, rest, rfl, number⟩ := numeric.head
  have other : first ∉ [' ', '"', '\x7b', '['] := by
    rcases number with rfl | digit
    · decide
    · exact not_mem_of_isDigit digit (by decide)
  simp only [List.mem_cons, List.not_mem_nil, or_false, not_or] at other
  constructor
  · rw [value?_of_plain float? (by simp [other]), read]
  · exact noItem
  · rw [key?_of_plain float? other.2.1, colon?_eq_none colon]
  · exact ⟨first, rest, rfl, other.1⟩
  · exact linebreak

-----------------------------------------------------------------------------------------
-- Integers
-----------------------------------------------------------------------------------------

/-- The text of an integer: its digits, behind a dash if it is below zero. -/
theorem toList_toString (value : Int)
    : (toString value).toList
      = if 0 ≤ value then Nat.toDigits 10 value.toNat
        else '-' :: Nat.toDigits 10 (-value).toNat := by
  rw [Int.toString_eq_repr, Int.repr_eq_if]
  split
  · exact Nat.toList_repr
  · rw [String.toList_append, Nat.toList_repr]
    rfl

theorem numeric_integer (value : Int) : Numeric (toString value).toList := by
  have digits (n : Nat) {c : Char} (member : c ∈ Nat.toDigits 10 n) : c.isDigit :=
    Nat.isDigit_of_mem_toDigits (by decide) (by decide) member
  rw [toList_toString]
  split
  · obtain ⟨first, rest, same, digit⟩ := toDigits_begins value.toNat
    exact ⟨fun c member => .inl (digits _ member), first, rest, digit, .inl same⟩
  · obtain ⟨first, rest, same, digit⟩ := toDigits_begins (-value).toNat
    refine ⟨fun c member => ?_, first, rest, digit, .inr (by rw [same])⟩
    rcases List.mem_cons.mp member with rfl | own
    · exact .inr (by decide)
    · exact .inl (digits _ own)

/-- Digits alone are read as the number that they stand for. -/
theorem integer?_of_digits (digits : ∀ c ∈ text, c.isDigit)
    : integer? text = (natural? 10 text).map fun n : Nat => (n : Int) := by
  unfold integer?
  split
  · exact nomatch digits 'o' (by simp)
  · exact nomatch digits 'x' (by simp)
  · exact nomatch digits '-' (by simp)
  · exact nomatch digits '+' (by simp)
  · rfl

/-- The text of an integer is read as the integer. -/
theorem integer?_toString (value : Int) : integer? (toString value).toList = some value := by
  rw [toList_toString]
  split
  · rw [integer?_of_digits fun c => Nat.isDigit_of_mem_toDigits (by decide) (by decide),
      natural?_toDigits, Option.map_some, Int.toNat_of_nonneg (by assumption)]
  · next negative =>
      have read : integer? ('-' :: Nat.toDigits 10 (-value).toNat)
          = (natural? 10 (Nat.toDigits 10 (-value).toNat)).map fun n : Nat => -(n : Int) := rfl
      rw [read, natural?_toDigits, Option.map_some, Int.toNat_of_nonneg (by omega), Int.neg_neg]

/-- The text of an integer stands for it. -/
theorem standsFor_integer (float? : List Char → Option Binary64) (value : Int)
    : StandsFor float? (Number.integer value).chars (.number (.integer value)) := by
  have numeric := numeric_integer value
  refine numeric.standsFor ?_
  rw [numeric.resolve?_eq, integer?_toString]

-----------------------------------------------------------------------------------------
-- Doubles
-----------------------------------------------------------------------------------------

/-- Digits are no number where one of them has no value. -/
theorem natural?_of_mark {base : Nat} {c : Char} (member : c ∈ text)
    (valueless : Text.digitValue? base c = none)
    : natural? base text = none := by
  have read : text.mapM (Text.digitValue? base) = none := by
    induction text with
    | nil => cases member
    | cons first rest ih =>
        rw [List.mapM_cons]
        rcases List.mem_cons.mp member with rfl | later
        · rw [valueless]
          rfl
        · rw [ih later]
          cases Text.digitValue? base first <;> rfl
  simp [natural?, Text.numberOf?, read]

/-- A number with a point or an exponent is no integer. -/
theorem Numeric.integer?_of_mark (numeric : Numeric text) {mark : Char} (member : mark ∈ text)
    (float : mark = '.' ∨ mark = 'e')
    : integer? text = none := by
  obtain ⟨valueless, noMinus, noPlus⟩
      : Text.digitValue? 10 mark = none ∧ mark ≠ '-' ∧ mark ≠ '+' := by
    rcases float with rfl | rfl
    · decide
    · decide
  have noOctal : 'o' ∉ text := numeric.not_mem (by decide) (by decide)
  have noHexadecimal : 'x' ∉ text := numeric.not_mem (by decide) (by decide)
  unfold integer?
  split
  · exact (noOctal (.tail _ (.head _))).elim
  · exact (noHexadecimal (.tail _ (.head _))).elim
  · rw [natural?_of_mark (List.mem_of_ne_of_mem noMinus member) valueless]
    rfl
  · rw [natural?_of_mark (List.mem_of_ne_of_mem noPlus member) valueless]
    rfl
  · rw [natural?_of_mark member valueless]
    rfl

theorem isExponent_of_digits {sign : Char} {power : List Char} (signed : sign = '-' ∨ sign = '+')
    (nonempty : power ≠ []) (tens : ∀ c ∈ power, c.isDigit)
    : isExponent ('e' :: sign :: power) := by
  have all : power.all Char.isDigit := List.all_eq_true.mpr tens
  rcases signed with rfl | rfl
  · simp [isExponent, unsigned, nonempty, all]
  · simp [isExponent, unsigned, nonempty, all]

/-- A float begins with a digit. -/
theorem begins_of_floatText (float : FloatText text)
    : ∃ first rest, first.isDigit ∧ text = first :: rest := by
  cases float with
  | point present digits | exponent present digits =>
      obtain ⟨first, rest, rfl⟩ := List.exists_cons_of_ne_nil present
      exact ⟨first, _, digits first (.head _), rfl⟩

/-- A float is made of digits and marks. -/
theorem chars_of_floatText (float : FloatText text)
    : ∀ c ∈ text, c.isDigit ∨ c ∈ numberMarks := by
  have mark {c : Char} (member : c ∈ numberMarks) : c.isDigit ∨ c ∈ numberMarks := .inr member
  cases float with
  | point _ digits others =>
      simp only [List.forall_mem_append, List.forall_mem_cons]
      exact ⟨fun c own => .inl (digits c own), mark (by decide), fun c own => .inl (others c own)⟩
  | exponent _ digits others signed _ tens =>
      simp only [List.forall_mem_append, List.forall_mem_cons]
      refine ⟨⟨fun c own => .inl (digits c own), ?_⟩, mark (by decide), ?_,
        fun c own => .inl (tens c own)⟩
      · rcases others with rfl | ⟨rest, rfl, others⟩
        · simp
        · simp only [List.forall_mem_cons]
          exact ⟨mark (by decide), fun c own => .inl (others c own)⟩
      · rcases signed with rfl | rfl
        · exact mark (by decide)
        · exact mark (by decide)

/-- A float has a point or an exponent. -/
theorem mark_of_floatText (float : FloatText text)
    : ∃ mark ∈ text, mark = '.' ∨ mark = 'e' := by
  cases float with
  | point => exact ⟨'.', by simp, .inl rfl⟩
  | exponent => exact ⟨'e', by simp, .inr rfl⟩

theorem unsigned_of_floatText (float : FloatText text) (negative : Bool)
    : unsigned (if negative then '-' :: text else text) = text := by
  cases negative with
  | true => rfl
  | false =>
      obtain ⟨first, rest, digit, rfl⟩ := begins_of_floatText float
      exact unsigned_of_ordinary (not_mem_of_isDigit digit (by decide))

/-- The text of a double has the form of a float. -/
theorem isFloat_of_floatText (float : FloatText text) (negative : Bool)
    : isFloat (if negative then '-' :: text else text) := by
  rw [isFloat, unsigned_of_floatText float]
  cases float with
  | @point whole fraction present digits others =>
      obtain ⟨take, drop⟩ := cut_append ('.' :: fraction) digits rfl
      have rest : fraction.dropWhile Char.isDigit = [] := by simpa using others
      rw [take, drop]
      simp [isFraction, present, rest, isExponent]
  | @exponent whole fraction power sign present digits others signed nonempty tens =>
      have exponent := isExponent_of_digits signed nonempty tens
      rw [List.append_assoc]
      rcases others with rfl | ⟨others, rfl, ones⟩
      · obtain ⟨take, drop⟩ := cut_append ('e' :: sign :: power) digits rfl
        rw [List.nil_append, take, drop]
        simp [isFraction, present, exponent]
      · obtain ⟨take, drop⟩ := cut_append ('.' :: (others ++ 'e' :: sign :: power)) digits rfl
        obtain ⟨_, rest⟩ := cut_append ('e' :: sign :: power) ones rfl
        rw [List.cons_append, take, drop]
        simp [isFraction, present, rest, exponent]

/-- The text of a double is a number. -/
theorem numeric_of_floatText (float : FloatText text) (negative : Bool)
    : Numeric (if negative then '-' :: text else text) := by
  obtain ⟨first, rest, digit, same⟩ := begins_of_floatText float
  have chars := chars_of_floatText float
  cases negative with
  | true =>
      refine ⟨?_, first, rest, digit, .inr (by rw [same]; rfl)⟩
      rintro c (_ | ⟨_, own⟩)
      · exact .inr (by decide)
      · exact chars c own
  | false => exact ⟨chars, first, rest, digit, .inl same⟩

/-- The text of a number is a number. -/
theorem numeric_chars (number : Number) : Numeric number.chars := by
  cases number with
  | integer value => exact numeric_integer value
  | float value =>
      obtain ⟨text, float, same⟩ := value.chars_eq
      rw [Number.chars, same]
      exact numeric_of_floatText float value.negative

/-- The text of a double stands for it where the reader of decimal numbers reads it back. -/
theorem standsFor_float {float? : List Char → Option Binary64} {value : Binary64}
    (readsBack : float? value.chars = some value)
    : StandsFor float? (Number.float value).chars (.number (.float value)) := by
  obtain ⟨text, float, same⟩ := value.chars_eq
  have numeric : Numeric value.chars := numeric_chars (.float value)
  have isFloat : isFloat value.chars := by
    rw [same]
    exact isFloat_of_floatText float value.negative
  have noInteger : integer? value.chars = none := by
    obtain ⟨mark, member, eitherMark⟩ := mark_of_floatText float
    refine numeric.integer?_of_mark ?_ eitherMark
    rw [same]
    split
    · exact .tail _ member
    · exact member
  refine numeric.standsFor ?_
  rw [numeric.resolve?_eq, noInteger]
  simp [isFloat, readsBack]

end ComponentCrd.Yaml.Reader
