import ComponentCrd.Json.Skipping
import ComponentCrd.Proofs.Json.NumberReading
import ComponentCrd.Proofs.Json.StringReading
import ComponentCrd.Proofs.Outcomes
import Mathlib.Data.List.TakeWhile

/-! What readers go past. A reader that ends without a fault has gone past a text of its kind: the
digits of a number, the parts of a string, blanks, or a word. So do the readers that pass over what
nobody asked for.
-/

namespace ComponentCrd.Json

open Decode StringPart

/-- A step goes past a text of the kind. -/
def Passes (kind : List UInt8 → Prop) (pass : Cursor → Except Fault Cursor) : Prop :=
  ∀ c after, pass c = .ok after → ∃ text, kind text ∧ c.rest = text ++ after.rest

/-- A reader goes past a text of the kind, whatever it gives. -/
def Takes {α : Type} (kind : List UInt8 → Prop) (read : Decoder α) : Prop :=
  ∀ c found after, read c = .ok (found, after) → ∃ text, kind text ∧ c.rest = text ++ after.rest

variable {c after : Cursor}

-----------------------------------------------------------------------------------------
-- Bytes
-----------------------------------------------------------------------------------------

theorem char_injective {first second : UInt8}
    (same : Char.ofNat first.toNat = Char.ofNat second.toNat)
    : first = second :=
  Classical.byContradiction fun differs => char_ne second rfl differs same

theorem exists_of_peek? {char : Char} (next : c.peek? = some char)
    : ∃ byte, Char.ofNat byte.toNat = char ∧ c.rest = byte :: (c.advance 1).rest := by
  unfold Cursor.peek? at next
  cases bytes : c.rest with
  | nil => simp [bytes] at next
  | cons byte others =>
      simp only [bytes, List.head?_cons, Option.map_some, Option.some.injEq] at next
      exact ⟨byte, next, by rw [Cursor.advance, bytes]; rfl⟩

theorem rest_of_peek? {char : Char} (byte : UInt8) (next : c.peek? = some char)
    (is : Char.ofNat byte.toNat = char)
    : c.rest = byte :: (c.advance 1).rest := by
  obtain ⟨other, same, rest⟩ := exists_of_peek? next
  exact char_injective (same.trans is.symm) ▸ rest

theorem rest_of_next? {char : Char} (next : c.next? = some (char, after))
    : ∃ byte, Char.ofNat byte.toNat = char ∧ c.rest = byte :: after.rest := by
  unfold Cursor.next? at next
  split at next
  · cases next
  · next byte rest bytes =>
      cases next
      exact ⟨byte, rfl, bytes⟩

/-- Bytes that are skipped for what they are, and the others. -/
theorem exists_skipped (test : Char → Bool) (c : Cursor)
    : ∃ text, (∀ byte ∈ text, test (Char.ofNat byte.toNat))
        ∧ c.rest = text ++ (c.skipWhile test).rest := by
  let belongs (byte : UInt8) : Bool := test (Char.ofNat byte.toNat)
  have all (byte : UInt8) (member : byte ∈ c.rest.takeWhile belongs) : belongs byte :=
    List.mem_takeWhile_imp member
  exact ⟨_, all, (List.prefix_iff_eq_append.mp (List.takeWhile_prefix _)).symm⟩

theorem exists_blanks (c : Cursor) : ∃ text, Blank text ∧ c.rest = text ++ c.blanks.rest :=
  exists_skipped Cursor.isBlank c

theorem exists_digits (c : Cursor)
    : ∃ text, (∀ byte ∈ text, isDigitByte byte)
        ∧ c.digits.1 = digitValues text
        ∧ c.rest = text ++ c.digits.2.rest := by
  have all (byte : UInt8) (member : byte ∈ c.rest.takeWhile isDigitByte) : isDigitByte byte :=
    List.mem_takeWhile_imp member
  exact ⟨_, all, rfl, (List.prefix_iff_eq_append.mp (List.takeWhile_prefix _)).symm⟩

/-- A word goes past its letters, by induction on them. -/
theorem passes_word (letters : List UInt8) {word : List Char}
    (is : letters.map (fun byte => Char.ofNat byte.toNat) = word)
    : Passes (· = letters) (·.word word) := by
  subst is
  induction letters with
  | nil =>
      intro c after pass
      cases pass
      exact ⟨[], rfl, rfl⟩
  | cons letter letters ih =>
      intro c after pass
      dsimp only at pass
      rw [List.map_cons, Cursor.word] at pass
      split at pass
      · cases pass
      · next found behind next =>
          obtain ⟨byte, rfl, first⟩ := rest_of_next? next
          split at pass
          · next same =>
              obtain ⟨_, rfl, others⟩ := ih behind after pass
              exact ⟨_, rfl, by rw [first, others, char_injective same]; rfl⟩
          · cases pass

/-- The colon behind a name, with the blanks before it. -/
theorem passes_colon : Passes (Around 58) Cursor.colon := by
  intro c after pass
  obtain ⟨blanks, blank, rest⟩ := exists_blanks c
  unfold Cursor.colon at pass
  dsimp only at pass
  split at pass
  · next colon =>
      cases pass
      refine ⟨blanks ++ [58], ⟨blanks, [], blank, blank_nil, rfl⟩, ?_⟩
      rw [rest, rest_of_peek? 58 colon rfl, List.append_assoc]
      rfl
  · cases pass
  · cases pass

-----------------------------------------------------------------------------------------
-- Numbers
-----------------------------------------------------------------------------------------

section

variable {behind : Cursor} {byte : UInt8} (first : c.rest = byte :: behind.rest)
include first

/-- A zero stands alone before the point. -/
theorem exists_zero (zero : Char.ofNat byte.toNat = '0')
    : ∃ text, WholePart text ∧ c.rest = text ++ behind.rest := by
  obtain rfl : byte = 48 := char_injective zero
  exact ⟨[48], .inl rfl, first⟩

/-- Other digits go on. -/
theorem exists_whole (zero : Char.ofNat byte.toNat ≠ '0') (digit : isDigitByte byte)
    : ∃ text, WholePart text ∧ c.rest = text ++ behind.digits.2.rest := by
  obtain ⟨others, all, -, rest⟩ := exists_digits behind
  have nonzero : byte ≠ 48 := by
    rintro rfl
    exact zero rfl
  refine ⟨byte :: others, .inr ⟨byte, others, rfl, nonzero, ?_⟩, ?_⟩
  · exact List.forall_mem_cons.mpr ⟨digit, all⟩
  · rw [first, List.cons_append, ← rest]

end

theorem takes_wholeDigits : Takes WholePart wholeDigits := by
  intro c found after read
  unfold wholeDigits at read
  split at read
  · cases read
  · next char behind next =>
      obtain ⟨byte, rfl, first⟩ := rest_of_next? next
      split at read
      · next zero =>
          have alone : behind = after := by
            split at read
            · split at read <;> cases read
              rfl
            · cases read
              rfl
          exact alone ▸ exists_zero first zero
      · next zero =>
          split at read
          · next digit =>
              cases read
              exact exists_whole first zero digit
          · cases read

theorem passes_skipWhole : Passes WholePart skipWhole := by
  intro c after pass
  unfold skipWhole at pass
  split at pass
  · cases pass
  · next char behind next =>
      obtain ⟨byte, rfl, first⟩ := rest_of_next? next
      split at pass
      · next zero =>
          split at pass <;> cases pass
          exact exists_zero first zero
      · next zero =>
          split at pass
          · next digit =>
              cases pass
              exact exists_whole first zero digit
          · cases pass

/-- A point goes on with digits, of which there is at least one. -/
theorem exists_fraction (point : c.peek? = some '.')
    (some : (c.advance 1).digits.1.isEmpty = false)
    : ∃ text, FractionPart text ∧ c.rest = text ++ (c.advance 1).digits.2.rest := by
  obtain ⟨text, all, values, rest⟩ := exists_digits (c.advance 1)
  cases text with
  | nil => simp [values, digitValues] at some
  | cons digit others =>
      refine ⟨46 :: digit :: others, .inr ⟨digit, others, rfl, all⟩, ?_⟩
      rw [rest_of_peek? 46 point rfl, List.cons_append, ← rest]

theorem takes_fractionDigits : Takes FractionPart fractionDigits := by
  intro c found after read
  unfold fractionDigits at read
  split at read
  · next point =>
      dsimp only at read
      split at read
      · split at read <;> cases read
      · next more =>
          cases read
          exact exists_fraction point (Bool.eq_false_iff.mpr more)
  · cases read
    exact ⟨[], .inl rfl, rfl⟩

theorem passes_skipFraction : Passes FractionPart skipFraction := by
  intro c after pass
  unfold skipFraction at pass
  split at pass
  · next point =>
      dsimp only at pass
      split at pass
      · cases pass
      · next more =>
          cases pass
          exact exists_fraction point (Bool.eq_false_iff.mpr more)
  · cases pass
    exact ⟨[], .inl rfl, rfl⟩

/-- Behind the letter of an exponent and a sign, if there is one. -/
def signed (c : Cursor) : Cursor :=
  if (c.advance 1).peek? = some '+' ∨ (c.advance 1).peek? = some '-' then (c.advance 1).advance 1
  else c.advance 1

/-- The letter of an exponent goes on with a sign, if there is one, and digits. -/
theorem exists_exponent {digit : UInt8} {behind : Cursor} (others : List UInt8)
    (marked : c.peek? = some 'e' ∨ c.peek? = some 'E')
    (first : (signed c).rest = digit :: behind.rest)
    (all : ∀ byte ∈ digit :: others, isDigitByte byte) (rest : behind.rest = others ++ after.rest)
    : ∃ text, ExponentPart text ∧ c.rest = text ++ after.rest := by
  obtain ⟨mark, marks, letter⟩
      : ∃ mark, (mark = 101 ∨ mark = 69) ∧ c.rest = mark :: (c.advance 1).rest := by
    rcases marked with small | capital
    · exact ⟨101, .inl rfl, rest_of_peek? 101 small rfl⟩
    · exact ⟨69, .inr rfl, rest_of_peek? 69 capital rfl⟩
  obtain ⟨sign, signs, behindSign⟩
      : ∃ sign, (sign = [] ∨ sign = [43] ∨ sign = [45])
          ∧ (c.advance 1).rest = sign ++ (signed c).rest := by
    unfold signed
    split
    · next sign =>
        rcases sign with plus | minus
        · exact ⟨[43], .inr (.inl rfl), rest_of_peek? 43 plus rfl⟩
        · exact ⟨[45], .inr (.inr rfl), rest_of_peek? 45 minus rfl⟩
    · exact ⟨[], .inl rfl, rfl⟩
  refine ⟨mark :: (sign ++ digit :: others),
    .inr ⟨mark, sign, digit, others, rfl, marks, signs, all⟩, ?_⟩
  rw [letter, behindSign, first, rest]
  simp

/-- The digits of an exponent are passed up to its end, or up to the one that makes it too large, by
induction on the budget.
-/
theorem exists_exponentDigits (collected budget : Nat) (c after : Cursor)
    (ends : (∃ value, exponentDigits collected budget c = .ok (value, after))
      ∨ exponentDigits collected budget c = .error after)
    : ∃ text, (∀ byte ∈ text, isDigitByte byte) ∧ c.rest = text ++ after.rest := by
  have nothing : ∃ text, (∀ byte ∈ text, isDigitByte byte) ∧ c.rest = text ++ c.rest :=
    ⟨[], by simp, rfl⟩
  induction budget generalizing collected c with
  | zero =>
      rcases ends with ⟨value, ends⟩ | ends <;> cases ends
      exact nothing
  | succ budget ih =>
      rw [exponentDigits] at ends
      split at ends
      · next char behind next =>
          obtain ⟨byte, rfl, first⟩ := rest_of_next? next
          split at ends
          · next digit =>
              dsimp only at ends
              split at ends
              · obtain rfl : behind = after := by
                  rcases ends with ⟨value, ends⟩ | ends <;> cases ends
                  rfl
                exact ⟨[byte], List.forall_mem_singleton.mpr digit, first⟩
              · obtain ⟨text, all, rest⟩ := ih _ behind ends ⟨[], by simp, rfl⟩
                refine ⟨byte :: text, List.forall_mem_cons.mpr ⟨digit, all⟩, ?_⟩
                rw [first, rest]
                rfl
          · rcases ends with ⟨value, ends⟩ | ends <;> cases ends
            exact nothing
      · rcases ends with ⟨value, ends⟩ | ends <;> cases ends
        exact nothing

theorem takes_exponentPart (zero : Bool) : Takes ExponentPart (exponentPart zero) := by
  intro c found after read
  unfold exponentPart at read
  split at read
  · next marked =>
      dsimp only at read
      split at read
      · cases read
      · next char behind next =>
          obtain ⟨digit, rfl, first⟩ := rest_of_next? next
          split at read
          · next isDigit =>
              split at read
              · next value _ counted =>
                  cases read
                  obtain ⟨others, all, rest⟩ :=
                    exists_exponentDigits _ _ behind after (.inl ⟨value, counted⟩)
                  exact exists_exponent others marked first
                    (List.forall_mem_cons.mpr ⟨isDigit, all⟩) rest
              · next beyond tooLarge =>
                  split at read
                  · cases read
                  · cases read
                    obtain ⟨others, all, rest⟩ :=
                      exists_exponentDigits _ _ behind beyond (.inr tooLarge)
                    obtain ⟨more, allMore, -, restMore⟩ := exists_digits beyond
                    refine exists_exponent (others ++ more) marked first ?_ ?_
                    · refine List.forall_mem_cons.mpr ⟨isDigit, fun byte member => ?_⟩
                      exact (List.mem_append.mp member).elim (all byte) (allMore byte)
                    · rw [rest, List.append_assoc, ← restMore]
          · cases read
  · cases read
    exact ⟨[], .inl rfl, rfl⟩

theorem passes_skipExponent : Passes ExponentPart skipExponent := by
  intro c after pass
  unfold skipExponent at pass
  split at pass
  · next marked =>
      dsimp only at pass
      split at pass
      · cases pass
      · next char behind next =>
          obtain ⟨digit, rfl, first⟩ := rest_of_next? next
          split at pass
          · next isDigit =>
              cases pass
              obtain ⟨others, all, -, rest⟩ := exists_digits behind
              exact exists_exponent others marked first
                (List.forall_mem_cons.mpr ⟨isDigit, all⟩) rest
          · cases pass
  · cases pass
    exact ⟨[], .inl rfl, rfl⟩

/-- A number behind its sign. -/
def NumberRest (negative : Bool) (text : List UInt8) : Prop :=
  ∃ number : NumberText, number.negative = negative ∧ text = number.unsigned

/-- The three parts of a number, one behind the other. -/
theorem numberRest_of_parts (negative : Bool) {middle behind : Cursor}
    (whole : ∃ text, WholePart text ∧ c.rest = text ++ middle.rest)
    (fraction : ∃ text, FractionPart text ∧ middle.rest = text ++ behind.rest)
    (exponent : ∃ text, ExponentPart text ∧ behind.rest = text ++ after.rest)
    : ∃ text, NumberRest negative text ∧ c.rest = text ++ after.rest := by
  obtain ⟨whole, isWhole, first⟩ := whole
  obtain ⟨fraction, isFraction, second⟩ := fraction
  obtain ⟨exponent, isExponent, third⟩ := exponent
  refine ⟨_, ⟨⟨negative, whole, fraction, exponent, isWhole, isFraction, isExponent⟩, rfl, rfl⟩, ?_⟩
  rw [first, second, third]
  simp [NumberText.unsigned]

theorem takes_number (negative : Bool) : Takes (NumberRest negative) (Decode.number negative) := by
  intro c found after read
  obtain ⟨⟨whole, middle⟩, first, read⟩ := Except.bind_eq_ok.mp read
  obtain ⟨⟨fraction, behind⟩, second, read⟩ := Except.bind_eq_ok.mp read
  obtain ⟨⟨exponent?, last⟩, third, read⟩ := Except.bind_eq_ok.mp read
  obtain rfl : last = after := by
    dsimp only at read
    split at read
    · cases read
      rfl
    · split at read
      · cases read
        rfl
      · split at read <;> cases read
        rfl
  exact numberRest_of_parts negative (takes_wholeDigits _ _ _ first)
    (takes_fractionDigits _ _ _ second) (takes_exponentPart _ _ _ _ third)

theorem passes_skipNumber (negative : Bool) : Passes (NumberRest negative) skipNumber := by
  intro c after pass
  obtain ⟨middle, first, pass⟩ := Except.bind_eq_ok.mp pass
  obtain ⟨behind, second, third⟩ := Except.bind_eq_ok.mp pass
  exact numberRest_of_parts negative (passes_skipWhole _ _ first)
    (passes_skipFraction _ _ second) (passes_skipExponent _ _ third)

-----------------------------------------------------------------------------------------
-- Strings
-----------------------------------------------------------------------------------------

/-- Four hexadecimal digits. -/
def HexDigits (text : List UInt8) : Prop :=
  ∃ w x y z number, hexNumber? [w, x, y, z] = some number ∧ text = [w, x, y, z]

/-- What follows the backslash of one escape, or of two. -/
def EscapeRest (text : List UInt8) : Prop := ∃ parts, inner parts = 92 :: text

/-- What follows the opening quote of a string. -/
def StringRest (text : List UInt8) : Prop := ∃ parts, text = inner parts ++ [34]

theorem takes_fourHexDigits : Takes HexDigits fourHexDigits := by
  intro c found after read
  unfold fourHexDigits at read
  dsimp only at read
  split at read
  · next w x y z others bytes =>
      split at read
      · next digits known =>
          cases read
          have number : hexNumber? [w, x, y, z] = some (Text.ofDigits 16 digits) := by
            rw [hexNumber?, known, Option.map_some]
          refine ⟨[w, x, y, z], ⟨w, x, y, z, _, number, rfl⟩, ?_⟩
          · rw [bytes, Cursor.advance, bytes]
            rfl
      · cases read
  · cases read

theorem passes_secondHalf (byte : UInt8) {expected : Char} (is : Char.ofNat byte.toNat = expected)
    : Passes (· = [byte]) (secondHalf expected) := by
  subst is
  intro c after pass
  unfold secondHalf at pass
  split at pass
  · cases pass
  · next found behind next =>
      obtain ⟨first, rfl, rest⟩ := rest_of_next? next
      split at pass
      · next same =>
          cases pass
          exact ⟨[byte], rfl, by rw [rest, char_injective same]; rfl⟩
      · cases pass

theorem escapeRest_code {text : List UInt8} (digits : HexDigits text)
    : EscapeRest (117 :: text) := by
  obtain ⟨w, x, y, z, number, known, rfl⟩ := digits
  exact ⟨[.code w x y z number known], rfl⟩

theorem escapeRest_pair {first second : List UInt8} (digits : HexDigits first)
    (digits' : HexDigits second)
    : EscapeRest (117 :: first ++ 92 :: 117 :: second) := by
  obtain ⟨w, x, y, z, number, known, rfl⟩ := digits
  obtain ⟨w', x', y', z', number', known', rfl⟩ := digits'
  exact ⟨[.code w x y z number known, .code w' x' y' z' number' known'], rfl⟩

/-- The code of an escape, with the second half of a surrogate pair behind the first one. -/
theorem takes_codeEscape : Takes (fun text => EscapeRest (117 :: text)) codeEscape := by
  intro c found after read
  obtain ⟨⟨first, behind⟩, own, read⟩ := Except.bind_eq_ok.mp read
  obtain ⟨digits, known, rest⟩ := takes_fourHexDigits _ _ _ own
  dsimp only at read
  split at read
  · cases read
  · split at read
    · cases read
      exact ⟨digits, escapeRest_code known, rest⟩
    · obtain ⟨c', backslash, read⟩ := Except.bind_eq_ok.mp read
      obtain ⟨c'', letter, read⟩ := Except.bind_eq_ok.mp read
      obtain ⟨⟨second, last⟩, other, read⟩ := Except.bind_eq_ok.mp read
      obtain ⟨_, rfl, restBackslash⟩ := passes_secondHalf 92 rfl _ _ backslash
      obtain ⟨_, rfl, restLetter⟩ := passes_secondHalf 117 rfl _ _ letter
      obtain ⟨digits', known', restOther⟩ := takes_fourHexDigits _ _ _ other
      dsimp only at read
      split at read
      · cases read
      · obtain ⟨-, rfl⟩ := Prod.mk.inj (Except.ok.inj read)
        refine ⟨_, escapeRest_pair known known', ?_⟩
        rw [rest, restBackslash, restLetter, restOther]
        simp

/-- An escape by letter. -/
theorem exists_letter {char : Char} (byte : UInt8)
    (known : byte ∈ [34, 92, 47, 98, 102, 110, 114, 116]) (next : c.next? = some (char, after))
    (is : Char.ofNat byte.toNat = char)
    : ∃ text, EscapeRest text ∧ c.rest = text ++ after.rest := by
  obtain ⟨other, same, rest⟩ := rest_of_next? next
  obtain rfl := char_injective (same.trans is.symm)
  exact ⟨[other], ⟨[.letter other known], rfl⟩, rest⟩

theorem takes_escape : Takes EscapeRest escape := by
  intro c found after read
  unfold escape at read
  split at read
  case h_1 => cases read
  case h_2 next =>
    cases read
    exact exists_letter 34 (by decide) next rfl
  case h_3 next =>
    cases read
    exact exists_letter 92 (by decide) next rfl
  case h_4 next =>
    cases read
    exact exists_letter 47 (by decide) next rfl
  case h_5 next =>
    cases read
    exact exists_letter 98 (by decide) next rfl
  case h_6 next =>
    cases read
    exact exists_letter 102 (by decide) next rfl
  case h_7 next =>
    cases read
    exact exists_letter 110 (by decide) next rfl
  case h_8 next =>
    cases read
    exact exists_letter 114 (by decide) next rfl
  case h_9 next =>
    cases read
    exact exists_letter 116 (by decide) next rfl
  case h_10 behind next =>
    obtain ⟨byte, same, first⟩ := rest_of_next? next
    obtain ⟨text, escaped, rest⟩ := takes_codeEscape _ _ _ read
    obtain rfl : byte = 117 := char_injective same
    exact ⟨117 :: text, escaped, by rw [first, rest]; rfl⟩
  case h_11 => cases read

theorem passes_skipEscape : Passes EscapeRest skipEscape := by
  intro c after pass
  unfold skipEscape at pass
  split at pass
  · cases pass
  · next char behind next =>
      obtain ⟨byte, rfl, first⟩ := rest_of_next? next
      split at pass
      · next code =>
          cases digits : fourHexDigits behind with
          | error fault =>
              rw [digits] at pass
              cases pass
          | ok found =>
              rw [digits] at pass
              cases pass
              obtain ⟨text, known, rest⟩ := takes_fourHexDigits _ _ _ digits
              obtain rfl : byte = 117 := char_injective code
              exact ⟨117 :: text, escapeRest_code known, by rw [first, rest]; rfl⟩
      · split at pass
        · next known =>
            cases pass
            have known
                : Char.ofNat byte.toNat ∈ [34, 92, 47, 98, 102, 110, 114, 116].map
                    fun byte : UInt8 => Char.ofNat byte.toNat :=
              List.contains_iff_mem.mp known
            obtain ⟨letter, known, is⟩ := List.mem_map.mp known
            exact exists_letter letter known next is
        · cases pass

section

variable {byte : UInt8}

/-- A quote ends a string. -/
theorem exists_quote (first : c.rest = 34 :: after.rest)
    : ∃ text, StringRest text ∧ c.rest = text ++ after.rest :=
  ⟨[34], ⟨[], rfl⟩, first⟩

/-- A string goes on behind a byte that stands for itself. -/
theorem exists_string_byte (first : c.rest = byte :: (c.advance 1).rest)
    (quote : byte ≠ 34) (backslash : byte ≠ 92) (control : ¬byte < 32)
    (others : ∃ text, StringRest text ∧ (c.advance 1).rest = text ++ after.rest)
    : ∃ text, StringRest text ∧ c.rest = text ++ after.rest := by
  obtain ⟨_, ⟨parts, rfl⟩, rest⟩ := others
  have plain : 32 ≤ byte ∧ byte ≠ 34 ∧ byte ≠ 92 := ⟨UInt8.not_lt.mp control, quote, backslash⟩
  exact ⟨_, ⟨.byte byte plain :: parts, rfl⟩, by rw [first, rest]; rfl⟩

/-- A string goes on behind an escape. -/
theorem exists_string_escape {behind : Cursor} (first : c.rest = 92 :: (c.advance 1).rest)
    (escaped : ∃ text, EscapeRest text ∧ (c.advance 1).rest = text ++ behind.rest)
    (others : ∃ text, StringRest text ∧ behind.rest = text ++ after.rest)
    : ∃ text, StringRest text ∧ c.rest = text ++ after.rest := by
  obtain ⟨text, ⟨parts, escape⟩, own⟩ := escaped
  obtain ⟨_, ⟨others, rfl⟩, rest⟩ := others
  have both : inner (parts ++ others) = inner parts ++ inner others := List.flatMap_append
  refine ⟨_, ⟨parts ++ others, rfl⟩, ?_⟩
  rw [first, own, rest, both, escape]
  simp

end

/-- The bytes of a string are those of its parts, by induction on the budget. -/
theorem takes_stringBytes (read : List UInt8) (budget : Nat)
    : Takes StringRest (stringBytes read budget) := by
  induction budget generalizing read with
  | zero => exact fun _ _ _ reads => by cases reads
  | succ budget ih =>
      intro c found after reads
      rw [stringBytes] at reads
      split at reads
      · cases reads
      · next byte others bytes =>
          have first : c.rest = byte :: (c.advance 1).rest := by rw [Cursor.advance, bytes]; rfl
          dsimp only at reads
          split at reads
          · next quote =>
              cases reads
              exact exists_quote (quote ▸ first)
          · next quote =>
              split at reads
              · next backslash =>
                  split at reads
                  · next escaped =>
                      exact exists_string_escape (backslash ▸ first) (takes_escape _ _ _ escaped)
                        (ih _ _ _ _ reads)
                  · cases reads
              · next backslash =>
                  split at reads
                  · cases reads
                  · next control =>
                      exact exists_string_byte first quote backslash control (ih _ _ _ _ reads)

theorem takes_stringTail : Takes StringRest stringTail := by
  intro c found after read
  obtain ⟨⟨bytes, behind⟩, own, read⟩ := Except.bind_eq_ok.mp read
  dsimp only at read
  split at read
  · cases read
    exact takes_stringBytes _ _ _ _ _ own
  · cases read

/-- A string that is skipped is that of its parts too. -/
theorem passes_skipString (budget : Nat) : Passes StringRest (skipString budget) := by
  induction budget with
  | zero => exact fun _ _ pass => by cases pass
  | succ budget ih =>
      intro c after pass
      rw [skipString] at pass
      split at pass
      · cases pass
      · next byte others bytes =>
          have first : c.rest = byte :: (c.advance 1).rest := by rw [Cursor.advance, bytes]; rfl
          dsimp only at pass
          split at pass
          · next quote =>
              cases pass
              exact exists_quote (quote ▸ first)
          · next quote =>
              split at pass
              · next backslash =>
                  split at pass
                  · next escaped =>
                      exact exists_string_escape (backslash ▸ first) (passes_skipEscape _ _ escaped)
                        (ih _ _ pass)
                  · cases pass
              · next backslash =>
                  split at pass
                  · cases pass
                  · next control =>
                      exact exists_string_byte first quote backslash control (ih _ _ pass)

end ComponentCrd.Json
