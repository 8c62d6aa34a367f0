import ComponentCrd.Proofs.Manifest.PlainScalars
import ComponentCrd.Proofs.Manifest.QuotedScalars
import Mathlib.Data.List.Basic

/-! What stands between the quotes of a double-quoted text: printable characters only, a quote only
behind a backslash, and few escapes. Nothing is lost there: the text is read back, whatever follows
the closing quote.
-/

namespace ComponentCrd.Yaml.Reader

-----------------------------------------------------------------------------------------
-- Quoted bodies
-----------------------------------------------------------------------------------------

/-- The characters that may be printed between quotes: the printable ones of YAML apart from tabs,
line ends and the byte order mark.
-/
structure Visible (c : Char) : Prop where
  noControl : 0x20 ≤ c.toNat
  noLateControl : c.toNat < 0x7F ∨ 0x9F < c.toNat
  noByteOrderMark : c.toNat ≠ 0xFEFF
  noNoncharacter : c.toNat ≠ 0xFFFE ∧ c.toNat ≠ 0xFFFF

/-- The characters that no backslash escapes. -/
def bareChars : List Char → List Char
  | [] => []
  | '\\' :: _ :: rest => bareChars rest
  | c :: rest => c :: bareChars rest

/-- The characters behind the backslashes, which tell the escapes apart. -/
def escapeMarks : List Char → List Char
  | [] => []
  | '\\' :: mark :: rest => mark :: escapeMarks rest
  | _ :: rest => escapeMarks rest

/-- The marks of escapes that stand for a character by themselves. -/
def letterMarks : List Char := ['"', '\\', 'b', 'f', 'n', 'r', 't']

/-- The marks of escapes that give the code of a character. -/
def codeMarks : List Char := ['x', 'u']

/-- What may stand between quotes. -/
structure QuotedBody (body : List Char) : Prop where
  visible : ∀ c ∈ body, Visible c
  noBareQuote : '"' ∉ bareChars body
  marks : ∀ mark ∈ escapeMarks body, mark ∈ letterMarks ++ codeMarks

-----------------------------------------------------------------------------------------
-- Printable ASCII
-----------------------------------------------------------------------------------------

/-- A character is printable ASCII. -/
def IsAscii (c : Char) : Prop := 0x20 ≤ c.toNat ∧ c.toNat < 0x7F

theorem IsAscii.visible {c : Char} (ascii : IsAscii c) : Visible c := by
  obtain ⟨low, high⟩ := ascii
  constructor <;> omega

theorem isAscii_of_mem {c : Char} {chars : List Char} (member : c ∈ chars)
    (ascii : chars.all fun d => 0x20 ≤ d.toNat && d.toNat < 0x7F)
    : IsAscii c := by
  simpa only [IsAscii, Bool.and_eq_true, decide_eq_true_eq]
    using List.all_eq_true.mp ascii c member

/-- A letter or a digit is neither a quote nor a backslash. -/
theorem isAscii_of_isAlphanum {c : Char} (alphanum : c.isAlphanum)
    : IsAscii c ∧ c ≠ '"' ∧ c ≠ '\\' := by
  have range
      : (48 ≤ c.toNat ∧ c.toNat ≤ 57) ∨ (65 ≤ c.toNat ∧ c.toNat ≤ 90)
        ∨ (97 ≤ c.toNat ∧ c.toNat ≤ 122) := by
    rcases (Bool.or_eq_true _ _).mp alphanum with alpha | digit
    · exact .inr (isAlpha_range alpha)
    · exact .inl (isDigit_range.mp digit)
  have quote : '"'.toNat = 34 := rfl
  have backslash : '\\'.toNat = 92 := rfl
  refine ⟨⟨?_, ?_⟩, ne_of_toNat ?_, ne_of_toNat ?_⟩ <;> omega

/-- The backslash and the marks behind it. -/
theorem isAscii_of_mark {mark : Char} (known : mark ∈ '\\' :: (letterMarks ++ codeMarks))
    : IsAscii mark :=
  isAscii_of_mem known (by decide)

-----------------------------------------------------------------------------------------
-- The ways to write a character
-----------------------------------------------------------------------------------------

/-- A character is written as itself, as an escape of one letter, or as an escape of its code. -/
inductive WrittenAs (c : Char) : List Char → Prop
  | itself (visible : Visible c) (quote : c ≠ '"') (backslash : c ≠ '\\') : WrittenAs c [c]
  | letter {mark : Char} (known : mark ∈ letterMarks) : WrittenAs c ['\\', mark]
  | code {mark : Char} {digits : List Char} (known : mark ∈ codeMarks)
    (hexadecimal : ∀ digit ∈ digits, digit.isAlphanum)
    : WrittenAs c ('\\' :: mark :: digits)

/-- A printable character that JSON does not escape is visible. -/
theorem visible_of_printable {c : Char} (printable : isPrintable c) (large : 0x20 ≤ c.toNat)
    : Visible c := by
  simp only [isPrintable, Bool.or_eq_true, Bool.and_eq_true, beq_iff_eq, decide_eq_true_eq]
    at printable
  constructor <;> omega

/-- What is visible is printable: there are no characters with the codes of surrogates. -/
theorem isPrintable_of_visible {c : Char} (visible : Visible c) : isPrintable c := by
  have valid : c.toNat < 0xD800 ∨ (0xDFFF < c.toNat ∧ c.toNat < 0x110000) := c.valid
  obtain ⟨noControl, noLateControl, noByteOrderMark, noNoncharacter⟩ := visible
  simp only [isPrintable, Bool.or_eq_true, Bool.and_eq_true, beq_iff_eq, decide_eq_true_eq]
  omega

/-- A visible character is written as itself unless it is a quote or a backslash. -/
theorem written_of_visible {c : Char} (visible : Visible c) (quote : c ≠ '"')
    (backslash : c ≠ '\\')
    : written c = [c] := by
  have large := visible.noControl
  unfold written Json.escapedChar
  split
  case h_1 => exact (quote rfl).elim
  case h_2 => exact (backslash rfl).elim
  case h_8 =>
    rw [if_neg (by omega), List.flatMap_singleton]
    exact visibleChar_printable (isPrintable_of_visible visible)
  all_goals exact absurd large (by decide)

private theorem isAlphanum_digitChar_all
    : ∀ digit < 16,
        (Nat.digitChar digit).isAlphanum ∧ (Nat.digitChar digit).toUpper.isAlphanum := by
  decide

theorem isAlphanum_lowerHex (n : Nat) : (Text.lowerHex n).isAlphanum :=
  (isAlphanum_digitChar_all _ (Nat.mod_lt _ (by decide))).1

theorem isAlphanum_upperHex (n : Nat) : (Text.upperHex n).isAlphanum :=
  (isAlphanum_digitChar_all _ (Nat.mod_lt _ (by decide))).2

theorem writtenAs_visibleChar {c : Char} (quote : c ≠ '"') (backslash : c ≠ '\\')
    (large : 0x20 ≤ c.toNat)
    : WrittenAs c (visibleChar c) := by
  rw [visibleChar]
  split
  · next printable => exact .itself (visible_of_printable printable large) quote backslash
  · split
    · exact .code (by decide) (by simp [isAlphanum_upperHex])
    · exact .code (by decide) (by simp [isAlphanum_upperHex])

theorem writtenAs_control (c : Char)
    : WrittenAs c
        (['\\', 'u', '0', '0', Text.lowerHex (c.toNat / 16), Text.lowerHex c.toNat].flatMap
          visibleChar) := by
  rw [flatMap_visibleChar]
  · exact .code (by decide) (by simp [isAlphanum_lowerHex])
  · simp only [List.forall_mem_cons, isPrintable_lowerHex, List.not_mem_nil, false_implies,
      implies_true, and_true]
    decide

/-- There are no other ways to write a character. Witness: what JSON escapes is made of printable
characters, and what it does not escape is printable or shown by its code.
-/
theorem writtenAs_written (c : Char) : WrittenAs c (written c) := by
  unfold written Json.escapedChar
  split
  case h_8 quote backslash _ _ _ _ _ =>
    split
    · exact writtenAs_control c
    · next large =>
        rw [List.flatMap_singleton]
        exact writtenAs_visibleChar quote backslash (by omega)
  all_goals exact .letter (by decide)

/-- A text of visible characters without quotes and backslashes is only put between quotes. -/
theorem doubleQuoted_of_visible {text : String}
    (each : ∀ c ∈ text.toList, Visible c ∧ c ≠ '"' ∧ c ≠ '\\')
    : doubleQuoted text = '"' :: (text.toList ++ ['"']) := by
  have own : text.toList.flatMap written = text.toList.flatMap fun c => [c] :=
    List.flatMap_congr fun c member => by
      obtain ⟨visible, quote, backslash⟩ := each c member
      exact written_of_visible visible quote backslash
  rw [doubleQuoted_eq, own, List.flatMap_singleton']

-----------------------------------------------------------------------------------------
-- One character after the other
-----------------------------------------------------------------------------------------

theorem bareChars_cons {c : Char} (backslash : c ≠ '\\') (rest : List Char)
    : bareChars (c :: rest) = c :: bareChars rest := by
  simp [bareChars, backslash]

theorem escapeMarks_cons {c : Char} (backslash : c ≠ '\\') (rest : List Char)
    : escapeMarks (c :: rest) = escapeMarks rest := by
  simp [escapeMarks, backslash]

/-- Digits are bare characters, none of them is a quote, and no escape begins in them. -/
theorem bareChars_digits {digits : List Char} (alphanum : ∀ digit ∈ digits, digit.isAlphanum)
    (rest : List Char)
    : bareChars (digits ++ rest) = digits ++ bareChars rest := by
  induction digits with
  | nil => rfl
  | cons digit others ih =>
      have noBackslash := (isAscii_of_isAlphanum (alphanum digit (.head _))).2.2
      rw [List.cons_append, bareChars_cons noBackslash,
        ih fun other member => alphanum other (.tail _ member)]
      rfl

theorem escapeMarks_digits {digits : List Char} (alphanum : ∀ digit ∈ digits, digit.isAlphanum)
    (rest : List Char)
    : escapeMarks (digits ++ rest) = escapeMarks rest := by
  induction digits with
  | nil => rfl
  | cons digit others ih =>
      have noBackslash := (isAscii_of_isAlphanum (alphanum digit (.head _))).2.2
      rw [List.cons_append, escapeMarks_cons noBackslash,
        ih fun other member => alphanum other (.tail _ member)]

/-- One more character in front keeps what may stand between quotes, however it is written. -/
theorem WrittenAs.quotedBody {c : Char} {own rest : List Char} (writtenAs : WrittenAs c own)
    (behind : QuotedBody rest)
    : QuotedBody (own ++ rest) := by
  cases writtenAs with
  | itself visible quote backslash =>
      constructor
      · exact List.forall_mem_cons.mpr ⟨visible, behind.visible⟩
      · rw [List.singleton_append, bareChars_cons backslash]
        exact List.not_mem_cons_of_ne_of_not_mem (Ne.symm quote) behind.noBareQuote
      · rw [List.singleton_append, escapeMarks_cons backslash]
        exact behind.marks
  | @letter mark known =>
      have among : mark ∈ letterMarks ++ codeMarks := List.mem_append_left _ known
      constructor
      · simp only [List.cons_append, List.nil_append, List.forall_mem_cons]
        have mark := (isAscii_of_mark (.tail _ among)).visible
        exact ⟨(isAscii_of_mark (.head _)).visible, mark, behind.visible⟩
      · exact behind.noBareQuote
      · exact List.forall_mem_cons.mpr ⟨among, behind.marks⟩
  | @code mark digits known hexadecimal =>
      have among : mark ∈ letterMarks ++ codeMarks := List.mem_append_right _ known
      have alphanum {digit : Char} (member : digit ∈ digits) :=
        isAscii_of_isAlphanum (hexadecimal digit member)
      constructor
      · simp only [List.cons_append, List.forall_mem_cons, List.forall_mem_append]
        exact ⟨(isAscii_of_mark (.head _)).visible, (isAscii_of_mark (.tail _ among)).visible,
          fun digit member => (alphanum member).1.visible, behind.visible⟩
      · have own : '"' ∉ digits := fun member => (alphanum member).2.1 rfl
        rw [List.cons_append, List.cons_append, bareChars, bareChars_digits hexadecimal]
        exact List.not_mem_append own behind.noBareQuote
      · rw [List.cons_append, List.cons_append, escapeMarks, escapeMarks_digits hexadecimal]
        exact List.forall_mem_cons.mpr ⟨among, behind.marks⟩

/-- A text may stand between quotes as it is written, by induction on the text. -/
theorem quotedBody_flatMap_written (text : List Char) : QuotedBody (text.flatMap written) := by
  induction text with
  | nil => exact ⟨by simp, by simp [bareChars], by simp [escapeMarks]⟩
  | cons c rest ih =>
      rw [List.flatMap_cons]
      exact (writtenAs_written c).quotedBody ih

-----------------------------------------------------------------------------------------
-- Nothing is lost
-----------------------------------------------------------------------------------------

/-- A body stands between the quotes of a text, and the text is read back from it. -/
structure Encloses (text : String) (body : List Char) : Prop where
  quoted : doubleQuoted text = '"' :: (body ++ ['"'])
  proper : QuotedBody body
  readsBack : ∀ rest, quoted? (body ++ '"' :: rest) = some (text.toList, rest)

theorem encloses_flatMap_written (text : String) : Encloses text (text.toList.flatMap written) :=
  ⟨doubleQuoted_eq text, quotedBody_flatMap_written text.toList,
    quoted?_flatMap_written text.toList⟩

/-- A body tells the texts apart. -/
theorem Encloses.text_eq {text other : String} {body otherBody : List Char}
    (encloses : Encloses text body) (otherEncloses : Encloses other otherBody)
    (same : doubleQuoted text = doubleQuoted other)
    : text = other := by
  rw [encloses.quoted, otherEncloses.quoted] at same
  obtain rfl : body = otherBody := List.append_cancel_right (List.cons.inj same).2
  have read := (encloses.readsBack []).symm.trans (otherEncloses.readsBack [])
  exact String.toList_injective (Prod.mk.inj (Option.some.inj read)).1

/-- Double quotes lose nothing, whatever the text is: what stands between them is printable, has no
bare quote and few escapes, and is read back as the text, so that no other text is quoted alike. It
makes no difference to show hidden characters where there are none.
-/
theorem doubleQuoted_lossless
    : (∀ text, ∃ body, Encloses text body)
      ∧ Function.Injective doubleQuoted
      ∧ ∀ text, doubleQuoted text = (Json.stringChars text).flatMap visibleChar := by
  refine ⟨fun text => ⟨_, encloses_flatMap_written text⟩, ?_, doubleQuoted_eq_flatMap⟩
  intro text other same
  exact (encloses_flatMap_written text).text_eq (encloses_flatMap_written other) same

/-- An escape of JSON stands beside one that JSON does not have. -/
example : doubleQuoted "\n\x7f" = ['"', '\\', 'n', '\\', 'x', '7', 'F', '"'] := by
  decide

end ComponentCrd.Yaml.Reader
