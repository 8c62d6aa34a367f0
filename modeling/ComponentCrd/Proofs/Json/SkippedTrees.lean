import ComponentCrd.Proofs.Json.NumberReading
import ComponentCrd.Proofs.Json.StringReading

/-! A value that nobody asked for is passed over whatever it is: every text of a tree is skipped to
its end. The values of its strings and numbers do not matter, nor does the depth of its brackets.
-/

namespace ComponentCrd.Json

open Decode StringPart

variable {rest : List UInt8} {offset : Nat}

-----------------------------------------------------------------------------------------
-- Numbers and strings
-----------------------------------------------------------------------------------------

theorem skipWhole_append {whole : List UInt8} (spelled : WholePart whole) (stops : NoDigit rest)
    : passed (skipWhole ⟨whole ++ rest, offset⟩) = some rest := by
  rcases spelled with rfl | ⟨first, others, rfl, other, all⟩
  · have none : (⟨[] ++ rest, offset + 1⟩ : Cursor).digits = _ :=
      digits_append (offset + 1) (by simp) stops
    rw [List.nil_append] at none
    have zero : Char.ofNat (48 : UInt8).toNat = '0' := rfl
    simp only [skipWhole, List.cons_append, List.nil_append, Cursor.next?_cons, zero, if_true, none,
      digitValues, List.map_nil, List.isEmpty_nil]
    rfl
  · have zero : Char.ofNat first.toNat ≠ '0' := char_ne 48 rfl other
    have digit : (Char.ofNat first.toNat).isDigit := all first (.head _)
    have more := digits_append (offset + 1) (fun byte member => all byte (.tail _ member)) stops
    simp only [skipWhole, List.cons_append, Cursor.next?_cons, zero, if_false, digit, if_true, more]
    rfl

theorem skipFraction_append {fraction : List UInt8} (spelled : FractionPart fraction)
    (stops : NoDigit rest) (point : (⟨rest, offset⟩ : Cursor).peek? ≠ some '.')
    : passed (skipFraction ⟨fraction ++ rest, offset⟩) = some rest := by
  rcases spelled with rfl | ⟨first, others, rfl, all⟩
  · rw [List.nil_append, skipFraction, if_neg point]
    rfl
  · have more := digits_append (offset + 1) all stops
    have starts : (⟨46 :: (first :: others ++ rest), offset⟩ : Cursor).peek? = some '.' := rfl
    change passed (skipFraction ⟨46 :: (first :: others ++ rest), offset⟩) = _
    simp only [skipFraction, starts, if_true, Cursor.advance_one, more, digitValues]
    rfl

theorem skipExponent_append (text : NumberText) (ends : Ends rest)
    : passed (skipExponent ⟨text.exponent ++ rest, offset⟩) = some rest := by
  have marked := text.peek?_exponent ends offset
  unfold skipExponent
  rcases text.exponent_digits with none | ⟨mark, sign, first, others, same, _, signs, all⟩
  · rw [if_neg (mt marked.mp (not_not_intro none)), none]
    rfl
  · have digit : (Char.ofNat first.toNat).isDigit := all first (.head _)
    have more (offset : Nat) :=
      digits_append offset (fun byte member => all byte (.tail _ member)) ends.noDigit
    rw [if_pos (marked.mpr (by simp [same])), same]
    simp only [List.cons_append, List.append_assoc, Cursor.advance_one]
    rcases signs with rfl | rfl | rfl
    · have plus := ne_of_isDigit '+' digit rfl
      have minus := ne_of_isDigit '-' digit rfl
      simp only [List.nil_append, Cursor.peek?_cons, Option.some.injEq, plus, minus, or_self,
        if_false, Cursor.next?_cons, digit, if_true, more]
      rfl
    · have plus : Char.ofNat (43 : UInt8).toNat = '+' := rfl
      simp only [List.cons_append, List.nil_append, Cursor.peek?_cons, plus, true_or, if_true,
        Cursor.advance_one, Cursor.next?_cons, digit, more]
      rfl
    · have minus : Char.ofNat (45 : UInt8).toNat = '-' := rfl
      simp only [List.cons_append, List.nil_append, Cursor.peek?_cons, minus, or_true, if_true,
        Cursor.advance_one, Cursor.next?_cons, digit, more]
      rfl

theorem skipNumber_append (text : NumberText) (ends : Ends rest)
    : passed (skipNumber ⟨text.unsigned ++ rest, offset⟩) = some rest := by
  unfold skipNumber NumberText.unsigned
  rw [List.append_assoc, List.append_assoc]
  refine passed_bind (skipWhole_append text.whole_digits (text.noDigit_fraction ends))
    fun offset => ?_
  refine passed_bind (skipFraction_append text.fraction_digits
    (text.noDigit_exponent ends).1 ((text.noDigit_exponent ends).2 _)) fun offset => ?_
  exact skipExponent_append text ends

/-- Past a value without brackets, of which the first character is known. -/
def skipScalar (first : Char) (c : Cursor) : Except Fault Cursor :=
  if first = 'n' then (c.advance 1).word ['u', 'l', 'l']
  else if first = 't' then (c.advance 1).word ['r', 'u', 'e']
  else if first = 'f' then (c.advance 1).word ['a', 'l', 's', 'e']
  else if first = '"' then skipString (c.advance 1).rest.length (c.advance 1)
  else if first = '-' then skipNumber (c.advance 1)
  else if first.isDigit then skipNumber c
  else .error (c.ahead .expectedValue)

theorem skipScalar_digit {byte : UInt8} {text : List UInt8} (digit : isDigitByte byte)
    : skipScalar (Char.ofNat byte.toNat) ⟨byte :: text, offset⟩
      = skipNumber ⟨byte :: text, offset⟩ := by
  unfold isDigitByte at digit
  have n := ne_of_isDigit 'n' digit rfl
  have t := ne_of_isDigit 't' digit rfl
  have f := ne_of_isDigit 'f' digit rfl
  have quote := ne_of_isDigit '"' digit rfl
  have minus := ne_of_isDigit '-' digit rfl
  simp only [skipScalar, n, t, f, quote, minus, digit, if_false, if_true]

theorem skipEscape_letter {letter : UInt8} (known : letter ∈ [34, 92, 47, 98, 102, 110, 114, 116])
    : skipEscape ⟨letter :: rest, offset⟩ = .ok ⟨rest, offset + 1⟩ := by
  simp only [List.mem_cons, List.not_mem_nil, or_false] at known
  rcases known with rfl | rfl | rfl | rfl | rfl | rfl | rfl | rfl <;> rfl

theorem skipEscape_code {w x y z : UInt8} {number : Nat}
    (hexadecimal : hexNumber? [w, x, y, z] = some number)
    : skipEscape ⟨117 :: w :: x :: y :: z :: rest, offset⟩ = .ok ⟨rest, offset + 1 + 4⟩ := by
  change (fourHexDigits ⟨w :: x :: y :: z :: rest, offset + 1⟩).map Prod.snd = _
  rw [fourHexDigits_eq_ok hexadecimal]
  rfl

theorem skipString_escape {text : List UInt8} {budget : Nat} {after : Cursor}
    (escaped : skipEscape ⟨text, offset + 1⟩ = .ok after)
    : skipString (budget + 1) ⟨92 :: text, offset⟩ = skipString budget after := by
  simp [skipString, Cursor.advance, escaped]

/-- A string is skipped up to its closing quote, part by part. -/
theorem skipString_append (parts : List StringPart) (budget offset : Nat)
    (enough : (inner parts).length ≤ budget)
    : passed (skipString (budget + 1) ⟨inner parts ++ 34 :: rest, offset⟩) = some rest := by
  induction parts generalizing budget offset with
  | nil => rfl
  | cons part others ih =>
      obtain ⟨budget, rfl, left⟩ := budget_behind enough
      cases part with
      | byte value plain =>
          obtain ⟨visible, quote, backslash⟩ := plain
          have control : ¬value < 32 := UInt8.not_lt.mpr visible
          have step : skipString (budget + 1 + 1) ⟨value :: (inner others ++ 34 :: rest), offset⟩
              = skipString (budget + 1) ⟨inner others ++ 34 :: rest, offset + 1⟩ := by
            rw [skipString]
            simp [quote, backslash, control, Cursor.advance]
          exact (congrArg passed step).trans (ih _ _ left)
      | letter value known =>
          exact (congrArg passed (skipString_escape (skipEscape_letter known))).trans (ih _ _ left)
      | code w x y z number hexadecimal =>
          exact (congrArg passed (skipString_escape (skipEscape_code hexadecimal))).trans
            (ih _ _ left)

/-- A string is skipped with as much budget as there are bytes. -/
theorem skipString_quoted (parts : List StringPart)
    : passed (skipString (inner parts ++ 34 :: rest).length ⟨inner parts ++ 34 :: rest, offset⟩)
      = some rest := by
  have budget : (inner parts ++ 34 :: rest).length = (inner parts).length + rest.length + 1 := by
    simp only [List.length_append, List.length_cons]
    omega
  rw [budget]
  exact skipString_append parts _ _ (Nat.le_add_right _ _)

-----------------------------------------------------------------------------------------
-- The bytes around a value
-----------------------------------------------------------------------------------------

theorem visible_of_isDigitByte {byte : UInt8} (digit : isDigitByte byte) : Cursor.Visible byte := by
  have space := ne_of_isDigit ' ' digit rfl
  have tab := ne_of_isDigit '\t' digit rfl
  have feed := ne_of_isDigit '\n' digit rfl
  have carriage := ne_of_isDigit '\r' digit rfl
  simp [Cursor.Visible, Cursor.isBlank, space, tab, feed, carriage]

theorem ends_blank {text : List UInt8} (blank : Blank text) (ends : Ends rest)
    : Ends (text ++ rest) := by
  cases text with
  | nil => exact ends
  | cons byte others =>
      have hidden : ¬Cursor.Visible byte := by
        simpa [Cursor.Visible] using blank byte (.head _)
      have other (stop : UInt8) (visible : Cursor.Visible stop) : byte ≠ stop :=
        fun same => hidden (same ▸ visible)
      have digit : isDigitByte byte = false :=
        Bool.eq_false_iff.mpr fun digit => hidden (visible_of_isDigitByte digit)
      simp [Ends, digit, other 46 (by decide), other 101 (by decide), other 69 (by decide)]

/-- A value begins with a visible byte, which closes no bracket. -/
theorem Tree.Spells.cons {tree : Tree} {own : List UInt8} (spelled : tree.Spells own)
    : ∃ byte others, own = byte :: others ∧ Cursor.Visible byte ∧ byte ≠ 93 ∧ byte ≠ 125 := by
  cases tree with
  | null => exact ⟨_, _, spelled, by decide⟩
  | bool value => cases value <;> exact ⟨_, _, spelled, by decide⟩
  | string parts => exact ⟨_, _, spelled, by decide⟩
  | array items =>
      obtain ⟨_, _, rfl⟩ := spelled
      exact ⟨_, _, rfl, by decide⟩
  | object members =>
      obtain ⟨_, _, rfl⟩ := spelled
      exact ⟨_, _, rfl, by decide⟩
  | number text =>
      rcases text.bytes_cases with ⟨_, minus⟩ | ⟨_, byte, others, same, digits, digit⟩
      · exact ⟨_, _, spelled.trans minus, by decide⟩
      · exact ⟨byte, others, (spelled.trans same).trans digits, visible_of_isDigitByte digit,
          ne_of_isDigitByte digit rfl, ne_of_isDigitByte digit rfl⟩

/-- What stands before the next item ends a value. -/
theorem ends_separator {text : List UInt8} (separator : Separator false text)
    : Ends (text ++ rest) := by
  obtain ⟨before, after, blank, _, rfl⟩ := separator
  rw [List.append_assoc]
  exact ends_blank blank rfl

theorem ends_items {items : List Tree} {text : List UInt8}
    (spelled : Tree.SpellItems false items text)
    : Ends (text ++ 93 :: rest) := by
  cases items with
  | nil => exact ends_blank spelled rfl
  | cons item others =>
      obtain ⟨_, _, _, separator, _, _, rfl⟩ := spelled
      rw [List.append_assoc]
      exact ends_separator separator

theorem ends_members {members : List (List StringPart × Tree)} {text : List UInt8}
    (spelled : Tree.SpellMembers false members text)
    : Ends (text ++ 125 :: rest) := by
  cases members with
  | nil => exact ends_blank spelled rfl
  | cons member others =>
      obtain ⟨_, _, _, _, separator, _, _, _, rfl⟩ := spelled
      rw [List.append_assoc]
      exact ends_separator separator

-----------------------------------------------------------------------------------------
-- Steps
-----------------------------------------------------------------------------------------

/-- The stage, the open frames, and the bytes that are left while a value is skipped. -/
abbrev Skipping := Stage × List Frame × List UInt8

/-- Skipping comes from one place to another with so many steps of its budget. -/
def Runs (steps : Nat) (now later : Skipping) : Prop :=
  ∀ budget offset, ∃ offset',
    skipRest now.1 now.2.1 (budget + steps) ⟨now.2.2, offset⟩
      = skipRest later.1 later.2.1 budget ⟨later.2.2, offset'⟩

theorem Runs.trans {first second : Nat} {now later last : Skipping} (runs : Runs first now later)
    (goesOn : Runs second later last)
    : Runs (first + second) now last := by
  intro budget offset
  obtain ⟨middle, runs⟩ := runs (budget + second) offset
  obtain ⟨offset', goesOn⟩ := goesOn budget middle
  refine ⟨offset', ?_⟩
  rw [← goesOn, ← runs]
  congr 1
  omega

section

variable {before text : List UInt8} {frames : List Frame} (blank : Blank before)
include blank

theorem runs_scalar {byte : UInt8} (visible : Cursor.Visible byte) (list : byte ≠ 91)
    (object : byte ≠ 123)
    (passes : ∀ offset,
      passed (skipScalar (Char.ofNat byte.toNat) ⟨byte :: text, offset⟩) = some rest)
    : Runs 1 (.value, frames, before ++ byte :: text) (.afterItem, frames, rest) := by
  intro budget offset
  obtain ⟨offset', passes⟩ := passed_eq_some.mp (passes (offset + before.length))
  refine ⟨offset', ?_⟩
  have list : Char.ofNat byte.toNat ≠ '[' := char_ne 91 rfl list
  have object : Char.ofNat byte.toNat ≠ '\x7b' := char_ne 123 rfl object
  unfold skipScalar at passes
  rw [skipRest]
  simp only [Cursor.blanks_append blank visible, Cursor.peek?_cons]
  rw [passes]

theorem runs_open {byte : UInt8} {frame : Frame}
    (bracket : byte = 91 ∧ frame = .list ∨ byte = 123 ∧ frame = .object)
    : Runs 1 (.value, frames, before ++ byte :: text) (.fresh, frame :: frames, text) := by
  intro budget offset
  refine ⟨offset + before.length + 1, ?_⟩
  rw [skipRest]
  rcases bracket with ⟨rfl, rfl⟩ | ⟨rfl, rfl⟩
  · rw [Cursor.blanks_append blank (by decide)]
    rfl
  · rw [Cursor.blanks_append blank (by decide)]
    rfl

/-- Where the next item inside a bracket is looked for. -/
def itemStage (first : Bool) : Stage := if first then .fresh else .afterItem

theorem runs_close (first : Bool) {frame : Frame} {byte : UInt8}
    (bracket : byte = 93 ∧ frame = .list ∨ byte = 125 ∧ frame = .object)
    : Runs 1 (itemStage first, frame :: frames, before ++ byte :: text)
        (.afterItem, frames, text) := by
  intro budget offset
  refine ⟨offset + before.length + 1, ?_⟩
  rcases bracket with ⟨rfl, rfl⟩ | ⟨rfl, rfl⟩
  · cases first with
    | true | false =>
        rw [skipRest, Cursor.blanks_append blank (by decide)]
        · rfl
        · simp [itemStage]
  · cases first with
    | true | false =>
        rw [skipRest, Cursor.blanks_append blank (by decide)]
        · rfl
        · simp [itemStage]

end

/-- What stands before the next item is skipped up to blanks, and so is its name in an object. -/
theorem runs_separator {first : Bool} {separator : List UInt8} {frame : Frame} {byte : UInt8}
    (separates : Separator first separator) (visible : Cursor.Visible byte)
    (other : Char.ofNat byte.toNat ≠ frame.close)
    : ∃ blanks, Blank blanks ∧ ∀ text frames rest,
        (∀ offset, passed (frame.skipName ⟨blanks ++ byte :: text, offset⟩) = some rest) →
        Runs 1 (itemStage first, frame :: frames, separator ++ byte :: text)
          (.value, frame :: frames, rest) := by
  cases first with
  | true =>
      refine ⟨[], by simp [Blank], fun text frames rest named budget offset => ?_⟩
      obtain ⟨offset', named⟩ := passed_eq_some.mp (named (offset + separator.length))
      refine ⟨offset', ?_⟩
      change skipRest .fresh _ _ _ = _
      rw [skipRest, Cursor.blanks_append separates visible]
      · rw [List.nil_append] at named
        simp [Cursor.peek?_cons, other, named]
      · simp
  | false =>
      obtain ⟨before, after, blankBefore, blankAfter, rfl⟩ := separates
      refine ⟨after, blankAfter, fun text frames rest named budget offset => ?_⟩
      obtain ⟨offset', named⟩ := passed_eq_some.mp (named (offset + before.length + 1))
      refine ⟨offset', ?_⟩
      change skipRest .afterItem _ _ _ = _
      have comma : Char.ofNat (44 : UInt8).toNat ≠ frame.close := by cases frame <;> decide
      rw [skipRest, List.append_assoc, List.cons_append,
        Cursor.blanks_append blankBefore (by decide)]
      · have comma' : ¬Char.ofNat (44 : UInt8).toNat ≠ ',' := fun differs => differs rfl
        simp only [Cursor.peek?_cons, comma, comma', if_false, and_false, if_true,
          Cursor.advance_one, named]
      · simp

-----------------------------------------------------------------------------------------
-- Values
-----------------------------------------------------------------------------------------

/-- The value of a tree is skipped, with blanks before it and within frames that stay as they are,
in fewer steps than two for each byte.
-/
def Skips (tree : Tree) : Prop :=
  ∀ own, tree.Spells own →
    ∃ steps, steps < 2 * own.length
      ∧ ∀ before rest frames, Blank before → Ends rest →
          Runs steps (.value, frames, before ++ (own ++ rest)) (.afterItem, frames, rest)

theorem runs_items {items : List Tree} (skips : ∀ item ∈ items, Skips item) (first : Bool)
    (text : List UInt8) (spelled : Tree.SpellItems first items text)
    : ∃ steps, steps ≤ 2 * text.length + 1
        ∧ ∀ rest frames,
            Runs steps (itemStage first, .list :: frames, text ++ 93 :: rest)
              (.afterItem, frames, rest) := by
  induction items generalizing first text with
  | nil => exact ⟨1, by omega, fun rest frames => runs_close spelled first (.inl ⟨rfl, rfl⟩)⟩
  | cons item others ih =>
      obtain ⟨separator, own, behind, separates, spelledOwn, spelledOthers, rfl⟩ := spelled
      obtain ⟨steps, few, skipsOwn⟩ := skips item (.head _) own spelledOwn
      obtain ⟨more, fewMore, skipsOthers⟩ :=
        ih (fun item member => skips item (.tail _ member)) false behind spelledOthers
      obtain ⟨byte, bytes, rfl, visible, bracket, _⟩ := spelledOwn.cons
      have other : Char.ofNat byte.toNat ≠ Frame.list.close := char_ne 93 rfl bracket
      obtain ⟨blanks, blank, separated⟩ := runs_separator separates visible other
      refine ⟨1 + steps + more, ?_, fun rest frames => ?_⟩
      · simp only [List.length_append, List.length_cons] at few ⊢
        omega
      · simp only [List.append_assoc, List.cons_append] at skipsOwn ⊢
        have first := separated (bytes ++ (behind ++ 93 :: rest)) frames _ fun _ => rfl
        have second := skipsOwn blanks (behind ++ 93 :: rest) (.list :: frames) blank
          (ends_items spelledOthers)
        exact (first.trans second).trans (skipsOthers rest frames)

/-- The name of a member and its colon are skipped up to blanks before the value. -/
theorem skipName_append {blanks colon : List UInt8} (name : List StringPart) (blank : Blank blanks)
    (around : Around 58 colon)
    : ∃ after, Blank after ∧ ∀ rest offset,
        passed (Frame.object.skipName ⟨blanks ++ (quoted name ++ (colon ++ rest)), offset⟩)
          = some (after ++ rest) := by
  obtain ⟨after, blankAfter, passes⟩ := Cursor.passed_colon around
  refine ⟨after, blankAfter, fun rest offset => ?_⟩
  have text : quoted name ++ (colon ++ rest) = 34 :: (inner name ++ 34 :: (colon ++ rest)) := by
    simp [quoted]
  rw [text, Frame.skipName]
  simp only [Cursor.blanks_append blank (show Cursor.Visible 34 by decide)]
  change passed (skipString _ ⟨inner name ++ 34 :: (colon ++ rest), _⟩ >>= _) = _
  exact passed_bind (skipString_quoted name) fun offset => passes rest offset

theorem runs_members {members : List (List StringPart × Tree)}
    (skips : ∀ member ∈ members, Skips member.2) (first : Bool) (text : List UInt8)
    (spelled : Tree.SpellMembers first members text)
    : ∃ steps, steps ≤ 2 * text.length + 1
        ∧ ∀ rest frames,
            Runs steps (itemStage first, .object :: frames, text ++ 125 :: rest)
              (.afterItem, frames, rest) := by
  induction members generalizing first text with
  | nil => exact ⟨1, by omega, fun rest frames => runs_close spelled first (.inr ⟨rfl, rfl⟩)⟩
  | cons member others ih =>
      obtain ⟨separator, colon, own, behind, separates, around, spelledOwn, spelledOthers, rfl⟩ :=
        spelled
      obtain ⟨steps, few, skipsOwn⟩ := skips member (.head _) own spelledOwn
      obtain ⟨more, fewMore, skipsOthers⟩ :=
        ih (fun item member => skips item (.tail _ member)) false behind spelledOthers
      have other : Char.ofNat (34 : UInt8).toNat ≠ Frame.object.close := by decide
      have visible : Cursor.Visible 34 := by decide
      obtain ⟨blanks, blank, separated⟩ := runs_separator separates visible other
      obtain ⟨after, blankAfter, named⟩ := skipName_append member.1 blank around
      refine ⟨1 + steps + more, ?_, fun rest frames => ?_⟩
      · simp only [List.length_append, List.length_cons, quoted] at few ⊢
        omega
      · simp only [List.append_assoc, quoted, List.cons_append] at skipsOwn named ⊢
        have first := separated _ frames _ (named (own ++ (behind ++ 125 :: rest)))
        have second := skipsOwn after (behind ++ 125 :: rest) (.object :: frames) blankAfter
          (ends_members spelledOthers)
        exact (first.trans second).trans (skipsOthers rest frames)

/-- Every value is skipped, by induction on its tree. -/
theorem skips (tree : Tree) : Skips tree := by
  induction tree using Tree.inductionOn with
  | null =>
      rintro own rfl
      exact ⟨1, by decide, fun before rest frames blank _ =>
        runs_scalar blank (by decide) (by decide) (by decide) fun _ => rfl⟩
  | bool value =>
      rintro own spelled
      cases value with
      | true | false =>
          subst spelled
          exact ⟨1, by decide, fun before rest frames blank _ =>
            runs_scalar blank (by decide) (by decide) (by decide) fun _ => rfl⟩
  | string parts =>
      rintro own rfl
      refine ⟨1, by simp only [quoted, List.length_append, List.length_cons]; omega,
        fun before rest frames blank _ => ?_⟩
      have text : quoted parts ++ rest = 34 :: (inner parts ++ 34 :: rest) := by simp [quoted]
      rw [text]
      exact runs_scalar blank (by decide) (by decide) (by decide) fun _ => skipString_quoted parts
  | number text =>
      rintro own rfl
      rcases text.bytes_cases with ⟨_, minus⟩ | ⟨_, byte, others, same, digits, digit⟩
      · rw [minus]
        refine ⟨1, by rw [List.length_cons]; omega, fun before rest frames blank ends => ?_⟩
        exact runs_scalar blank (by decide) (by decide) (by decide)
          fun _ => skipNumber_append text ends
      · rw [same, digits]
        refine ⟨1, by rw [List.length_cons]; omega, fun before rest frames blank ends => ?_⟩
        refine runs_scalar blank (visible_of_isDigitByte digit) (ne_of_isDigitByte digit rfl)
          (ne_of_isDigitByte digit rfl) fun offset => ?_
        have skipped : passed (skipNumber ⟨text.unsigned ++ rest, offset⟩) = some rest :=
          skipNumber_append text ends
        rw [digits] at skipped
        exact (congrArg passed (skipScalar_digit digit)).trans skipped
  | array items ih =>
      rintro own ⟨text, spelled, rfl⟩
      obtain ⟨steps, few, runs⟩ := runs_items ih true text spelled
      refine ⟨1 + steps, ?_, fun before rest frames blank _ => ?_⟩
      · simp only [List.length_append, List.length_cons, List.length_nil]
        omega
      · simp only [List.append_assoc, List.cons_append, List.nil_append]
        exact (runs_open blank (.inl ⟨rfl, rfl⟩)).trans (runs rest frames)
  | object members ih =>
      rintro own ⟨text, spelled, rfl⟩
      obtain ⟨steps, few, runs⟩ := runs_members ih true text spelled
      refine ⟨1 + steps, ?_, fun before rest frames blank _ => ?_⟩
      · simp only [List.length_append, List.length_cons, List.length_nil]
        omega
      · simp only [List.append_assoc, List.cons_append, List.nil_append]
        exact (runs_open blank (.inr ⟨rfl, rfl⟩)).trans (runs rest frames)

/-- Past the value of a tree, whatever it is. -/
theorem skipValue_append {tree : Tree} {before own : List UInt8} (spelled : tree.Spells own)
    (blank : Blank before) (ends : Ends rest)
    : passed (skipValue ⟨before ++ (own ++ rest), offset⟩) = some rest := by
  obtain ⟨steps, few, runs⟩ := skips tree own spelled
  have enough : ∃ budget, 2 * (before ++ (own ++ rest)).length + 2 = budget + 1 + steps := by
    refine ⟨2 * (before ++ (own ++ rest)).length + 1 - steps, ?_⟩
    simp only [List.length_append]
    omega
  obtain ⟨budget, enough⟩ := enough
  obtain ⟨offset', runs⟩ := runs before rest [] blank ends (budget + 1) offset
  rw [skipValue, enough, runs]
  rfl

end ComponentCrd.Json
