import ComponentCrd.Manifest.Scalar
import ComponentCrd.Proofs.Manifest.BlockReader

/-! Plain scalars read back: a text that is written plain is read as that string, and never as an
item, an entry, a null, a truth value or a number.
-/

namespace ComponentCrd.Yaml.Reader

variable (float? : List Char → Option Binary64)

-----------------------------------------------------------------------------------------
-- Texts in their places
-----------------------------------------------------------------------------------------

/-- Where a value is expected, the text is read as the given one; and on a line of its own it is
neither an item nor an entry.
-/
structure StandsFor (text : List Char) (value : Json) : Prop where
  reads : value? float? text = some value
  noItem : dash? text = none
  noEntry : key? float? text = none
  begins : ∃ first rest, text = first :: rest ∧ first ≠ ' '
  unbroken : '\n' ∉ text

/-- Before a colon the text is read as the key. -/
structure Names (text : List Char) (name : String) : Prop where
  reads
    : ∀ after, isSeparated after → key? float? (text ++ ':' :: after) = some (name, after)
  begins : ∃ first rest, text = first :: rest ∧ first ∉ [' ', '-', '.']
  unbroken : '\n' ∉ text

-----------------------------------------------------------------------------------------
-- Texts without colons and blanks
-----------------------------------------------------------------------------------------

theorem colon?_eq_none {text : List Char} (colon : ':' ∉ text) : colon? text = none := by
  induction text with
  | nil => rfl
  | cons c rest ih =>
      simp only [List.mem_cons, not_or] at colon
      have differs : (c = ':' && isSeparated rest) = false := by simp [Ne.symm colon.1]
      rw [colon?, differs, ih colon.2]
      rfl

/-- A text is read up to the colon behind it. -/
theorem colon?_append {text after : List Char} (colon : ':' ∉ text) (separated : isSeparated after)
    : colon? (text ++ ':' :: after) = some (text, after) := by
  induction text with
  | nil => simp [colon?, separated]
  | cons c rest ih =>
      simp only [List.mem_cons, not_or] at colon
      have differs : (c = ':' && isSeparated (rest ++ ':' :: after)) = false := by
        simp [Ne.symm colon.1]
      rw [List.cons_append, colon?, differs, ih colon.2]
      rfl

theorem goesOnPlain_of_simple {text : List Char} (colon : ':' ∉ text) (blank : ' ' ∉ text)
    : goesOnPlain text := by
  induction text with
  | nil => rfl
  | cons c rest ih =>
      simp only [List.mem_cons, not_or] at colon blank
      cases rest with
      | nil => simp [goesOnPlain, Ne.symm colon.1, Ne.symm blank.1]
      | cons d others =>
          simp [goesOnPlain, Ne.symm colon.1, Ne.symm blank.1, ih colon.2 blank.2]

/-- What does not begin with a quote or like an empty collection is read as a plain scalar. -/
theorem value?_of_plain {first : Char} {rest : List Char} (other : first ∉ ['"', '\x7b', '['])
    : value? float? (first :: rest) = plain? float? (first :: rest) := by
  simp only [List.mem_cons, List.not_mem_nil, or_false, not_or] at other
  unfold value?
  split
  · next same => exact (other.1 (List.cons.inj same).1).elim
  · next same => exact (other.2.1 (List.cons.inj same).1).elim
  · next same => exact (other.2.2 (List.cons.inj same).1).elim
  · rfl

/-- A plain key is read up to the colon behind it. -/
theorem key?_of_plain {first : Char} {rest : List Char} (unquoted : first ≠ '"')
    : key? float? (first :: rest)
      = match colon? (first :: rest) with
        | some (before, after) =>
            match plain? float? before with
            | some (.string key) => some (key, after)
            | _ => none
        | none => none := by
  unfold key?
  split
  · next same => exact (unquoted (List.cons.inj same).1).elim
  · rfl

/-- Every item begins with a dash. -/
theorem dash?_of_ne {first : Char} {rest : List Char} (other : first ≠ '-')
    : dash? (first :: rest) = none := by
  unfold dash?
  split
  · next same => exact (other (List.cons.inj same).1).elim
  · next same => exact (other (List.cons.inj same).1).elim
  · rfl

-----------------------------------------------------------------------------------------
-- Strings
-----------------------------------------------------------------------------------------

/-- The codes of letters. -/
theorem isAlpha_range {c : Char} (alpha : c.isAlpha)
    : (65 ≤ c.toNat ∧ c.toNat ≤ 90) ∨ (97 ≤ c.toNat ∧ c.toNat ≤ 122) := by
  rcases (Bool.or_eq_true _ _).mp alpha with upper | lower
  · obtain ⟨low, high⟩ := of_decide_eq_true upper
    exact .inl ⟨low, high⟩
  · obtain ⟨low, high⟩ := (Bool.and_eq_true _ _).mp lower
    exact .inr ⟨of_decide_eq_true low, of_decide_eq_true high⟩

/-- The codes of digits. -/
theorem isDigit_range {c : Char} : c.isDigit ↔ 48 ≤ c.toNat ∧ c.toNat ≤ 57 := by
  simp [Char.isDigit, UInt32.le_iff_toNat_le]

/-- The codes of what may stand in a plain string. -/
theorem isPlainChar_range {c : Char} (plain : isPlainChar c)
    : (45 ≤ c.toNat ∧ c.toNat ≤ 57) ∨ (65 ≤ c.toNat ∧ c.toNat ≤ 122) := by
  simp only [isPlainChar, Char.isAlphanum, Bool.or_eq_true, beq_iff_eq] at plain
  rcases plain with (((((alpha | digit) | rfl) | rfl) | rfl) | rfl)
  · have := isAlpha_range alpha
    omega
  · have := isDigit_range.mp digit
    omega
  all_goals decide

theorem ne_of_toNat {c d : Char} (differs : c.toNat ≠ d.toNat) : c ≠ d := by
  rintro rfl
  exact differs rfl

/-- The value of a decimal digit, which nothing but a decimal digit has. -/
theorem digitValue?_ten (c : Char)
    : Text.digitValue? 10 c = if c.isDigit then some (c.toNat - 48) else none := by
  have code {a b : Char} : a ≤ b ↔ a.toNat ≤ b.toNat := UInt32.le_iff_toNat_le
  have letters : 'a'.toNat = 97 ∧ 'A'.toNat = 65 := by decide
  unfold Text.digitValue?
  split
  · next digit =>
      have := isDigit_range.mp digit
      simp only [Option.filter_some, decide_eq_true_eq]
      rw [if_pos (by omega)]
  · split
    · next range =>
        have := code.mp range.1
        simp only [Option.filter_some, decide_eq_true_eq]
        rw [if_neg (by omega)]
    · split
      · next range =>
          have := code.mp range.1
          simp only [Option.filter_some, decide_eq_true_eq]
          rw [if_neg (by omega)]
      · rfl

/-- A letter does not occur among other characters. -/
theorem not_mem_of_isAlpha {c : Char} (alpha : c.isAlpha) {others : List Char}
    (marks : others.all fun d => !d.isAlpha)
    : c ∉ others := by
  intro member
  simpa [alpha] using List.all_eq_true.mp marks c member

/-- A letter is no digit. -/
theorem isDigit_of_isAlpha {c : Char} (alpha : c.isAlpha) : c.isDigit = false := by
  have range := isAlpha_range alpha
  rw [Bool.eq_false_iff]
  intro digit
  have := isDigit_range.mp digit
  omega

/-- What stands in a plain string has no meaning between words, and may stand in a line. -/
theorem isPlainChar_stands {c : Char} (plain : isPlainChar c)
    : c ≠ ':' ∧ c ≠ ' ' ∧ c ≠ '\n' ∧ isTextChar c := by
  have range := isPlainChar_range plain
  refine ⟨ne_of_toNat (show c.toNat ≠ 58 by omega), ne_of_toNat (show c.toNat ≠ 32 by omega),
    ne_of_toNat (show c.toNat ≠ 10 by omega), ?_⟩
  simp only [isTextChar, Bool.or_eq_true, Bool.and_eq_true, decide_eq_true_eq]
  omega

/-- Every null and truth value is reserved, apart from the one without letters. -/
theorem isReserved_of_words : ∀ word ∈ words, word.1 ≠ "~" → isReserved word.1.toList := by
  decide

theorem unsigned_of_ordinary {first : Char} {rest : List Char} (ordinary : first ∉ ['-', '+'])
    : unsigned (first :: rest) = first :: rest := by
  simp only [List.mem_cons, List.not_mem_nil, or_false, not_or] at ordinary
  unfold unsigned
  split
  · next same => exact (ordinary.1 (List.cons.inj same).1).elim
  · next same => exact (ordinary.2 (List.cons.inj same).1).elim
  · rfl

/-- A text does not occur among words that begin with another character. -/
theorem not_contains_of_head {among : List String} {initial : Char} {text : List Char}
    (heads : ∀ word ∈ among, word.toList.head? = some initial)
    (differs : text.head? ≠ some initial)
    : among.contains (String.ofList text) = false := by
  rw [Bool.eq_false_iff, Ne, List.contains_iff_mem]
  intro member
  have head := heads _ member
  rw [String.toList_ofList] at head
  exact differs head

/-- Every special float begins with a point, a sign apart. -/
theorem isSpecialFloat_of_head {text : List Char} (own : text.head? ≠ some '.')
    (inner : (unsigned text).head? ≠ some '.')
    : isSpecialFloat text = false := by
  have noInfinity : infinities.contains (String.ofList (unsigned text)) = false :=
    not_contains_of_head (by decide) inner
  have noNumber : notNumbers.contains (String.ofList text) = false :=
    not_contains_of_head (by decide) own
  rw [isSpecialFloat, noInfinity, noNumber]
  rfl

/-- Every integer begins with a sign or a digit. -/
theorem integer?_of_ordinary {first : Char} {rest : List Char} (ordinary : first ∉ ['-', '+'])
    (noDigit : first.isDigit = false)
    : integer? (first :: rest) = none := by
  simp only [List.mem_cons, List.not_mem_nil, or_false, not_or] at ordinary
  have notZero : first ≠ '0' := by
    rintro rfl
    exact nomatch noDigit
  unfold integer?
  split
  · next same => exact (notZero (List.cons.inj same).1).elim
  · next same => exact (notZero (List.cons.inj same).1).elim
  · next same => exact (ordinary.1 (List.cons.inj same).1).elim
  · next same => exact (ordinary.2 (List.cons.inj same).1).elim
  · simp [natural?, Text.numberOf?, List.mapM_cons, digitValue?_ten, noDigit]

/-- Every floating-point number begins with a sign, a point or a digit. -/
theorem isFloat_of_ordinary {first : Char} {rest : List Char} (ordinary : first ∉ ['-', '+'])
    (point : first ≠ '.') (noDigit : first.isDigit = false)
    : isFloat (first :: rest) = false := by
  simp only [isFloat, unsigned_of_ordinary ordinary, List.takeWhile_cons, List.dropWhile_cons,
    noDigit]
  unfold isFraction
  split
  · next same => exact (point (List.cons.inj same).1).elim
  · rfl

/-- What begins with a letter and is no word of the schema is a string. -/
theorem resolve?_of_alpha {first : Char} {rest : List Char} (alpha : first.isAlpha)
    (noWord : words.lookup (String.ofList (first :: rest)) = none)
    : resolve? float? (first :: rest) = some (.string (String.ofList (first :: rest))) := by
  have noDigit := isDigit_of_isAlpha alpha
  have ordinary : first ∉ ['-', '+'] := not_mem_of_isAlpha alpha (by decide)
  have point : first ≠ '.' := by
    rintro rfl
    cases alpha
  have special : isSpecialFloat (first :: rest) = false := by
    refine isSpecialFloat_of_head (by simpa using point) ?_
    rw [unsigned_of_ordinary ordinary]
    simpa using point
  rw [resolve?, noWord, special, integer?_of_ordinary ordinary noDigit,
    isFloat_of_ordinary ordinary point noDigit]
  rfl

/-- A plain string is what it is written as. Witness: no word of the schema can be written plain,
and it begins with a letter, as no number does.
-/
theorem plain?_of_isPlain {text : List Char} (plain : isPlain text)
    : plain? float? text = some (.string (String.ofList text)) := by
  simp only [isPlain, Bool.and_eq_true, Bool.not_eq_true'] at plain
  obtain ⟨⟨letter, all⟩, free⟩ := plain
  have stands {c : Char} (member : c ∈ text) :=
    isPlainChar_stands (List.all_eq_true.mp all c member)
  cases text with
  | nil => cases letter
  | cons first rest =>
      have alpha : first.isAlpha := by simpa using letter
      have noIndicator : first ∉ indicators := not_mem_of_isAlpha alpha (by decide)
      have blank : first ≠ ' ' := by
        rintro rfl
        cases alpha
      have scalar : isPlainScalar (first :: rest) := by
        simp only [isPlainScalar, Bool.and_eq_true]
        refine ⟨⟨?_, ?_⟩, ?_⟩
        · simp [beginsPlain, blank, noIndicator]
        · exact goesOnPlain_of_simple (fun member => (stands member).1 rfl)
            fun member => (stands member).2.1 rfl
        · exact List.all_eq_true.mpr fun c member => (stands member).2.2.2
      have noWord : words.lookup (String.ofList (first :: rest)) = none := by
        cases found : words.lookup (String.ofList (first :: rest)) with
        | none => rfl
        | some value =>
            have reserved := isReserved_of_words _ (Entries.mem_of_lookup found)
            rw [String.toList_ofList] at reserved
            have differs : String.ofList (first :: rest) ≠ "~" := by
              intro tilde
              have head := congrArg (fun word => word.toList.head?) tilde
              rw [String.toList_ofList] at head
              obtain rfl : first = '~' := Option.some.inj head
              cases alpha
            cases free.symm.trans (reserved differs)
      rw [plain?, if_pos scalar, resolve?_of_alpha float? alpha noWord]

end ComponentCrd.Yaml.Reader
