import ComponentCrd.Proofs.Json.Reading

/-! Numbers are read up to the first byte that does not go on with them. What such a byte is does
not matter, so a number means the same inside of a text as on its own.
-/

namespace ComponentCrd.Json

open Decode

/-- The bytes do not go on with digits. -/
def NoDigit (rest : List UInt8) : Prop := rest.head?.all fun byte => !isDigitByte byte

/-- The bytes do not go on with a number. -/
def Ends (rest : List UInt8) : Prop :=
  rest.head?.all fun byte => !isDigitByte byte && byte ≠ 46 && byte ≠ 101 && byte ≠ 69

/-- The values of digits. -/
def digitValues (digits : List UInt8) : List Nat := digits.map fun byte => byte.toNat - 48

variable {rest : List UInt8} {offset : Nat}

theorem ends_nil : Ends [] := by simp [Ends]

theorem Ends.noDigit (ends : Ends rest) : NoDigit rest := by
  cases rest with
  | nil => simp [NoDigit]
  | cons byte others =>
      simp only [Ends, List.head?_cons, Option.all_some, Bool.and_eq_true] at ends
      simpa [NoDigit] using ends.1.1.1

/-- Behind a number comes no point and no exponent. -/
theorem Ends.peek? (ends : Ends rest) {char : Char} (goesOn : char ∈ ['.', 'e', 'E'])
    : (⟨rest, offset⟩ : Cursor).peek? ≠ some char := by
  cases rest with
  | nil => simp [Cursor.peek?]
  | cons byte others =>
      simp only [Ends, List.head?_cons, Option.all_some, Bool.and_eq_true, decide_eq_true_eq]
        at ends
      obtain ⟨⟨⟨_, point⟩, lower⟩, upper⟩ := ends
      rw [Cursor.peek?_cons]
      simp only [List.mem_cons, List.not_mem_nil, or_false] at goesOn
      rcases goesOn with rfl | rfl | rfl
      · exact fun same => char_ne 46 rfl point (Option.some.inj same)
      · exact fun same => char_ne 101 rfl lower (Option.some.inj same)
      · exact fun same => char_ne 69 rfl upper (Option.some.inj same)

theorem digits_append (offset : Nat) {found : List UInt8} (all : ∀ byte ∈ found, isDigitByte byte)
    (stops : NoDigit rest)
    : (⟨found ++ rest, offset⟩ : Cursor).digits
      = (digitValues found, ⟨rest, offset + found.length⟩) := by
  have cut := (cut_append rest all stops).1
  unfold isDigitByte at cut
  simp [Cursor.digits, digitValues, cut, Cursor.advance]

theorem wholeDigits_append {whole : List UInt8} (spelled : WholePart whole) (stops : NoDigit rest)
    : wholeDigits ⟨whole ++ rest, offset⟩
      = .ok (digitValues whole, ⟨rest, offset + whole.length⟩) := by
  rcases spelled with rfl | ⟨first, others, rfl, other, all⟩
  · cases rest with
    | nil => rfl
    | cons byte behind =>
        have follower : (Char.ofNat byte.toNat).isDigit = false := by
          simpa [NoDigit, isDigitByte] using stops
        simp [wholeDigits, Cursor.next?, Cursor.peek?, follower, digitValues]
  · have zero : Char.ofNat first.toNat ≠ '0' := char_ne 48 rfl other
    have digit : (Char.ofNat first.toNat).isDigit := all first (.head _)
    have more := digits_append (offset + 1) (fun byte member => all byte (.tail _ member)) stops
    simp only [wholeDigits, List.cons_append, Cursor.next?_cons, zero, if_false, digit, if_true,
      more, toNat_char, digitValues, List.map_cons, List.length_cons, Except.ok.injEq,
      Prod.mk.injEq, Cursor.mk.injEq, true_and]
    omega

theorem fractionDigits_append {fraction : List UInt8} (spelled : FractionPart fraction)
    (stops : NoDigit rest) (point : (⟨rest, offset⟩ : Cursor).peek? ≠ some '.')
    : fractionDigits ⟨fraction ++ rest, offset⟩
      = .ok (digitValues (fraction.drop 1), ⟨rest, offset + fraction.length⟩) := by
  rcases spelled with rfl | ⟨first, others, rfl, all⟩
  · simp [fractionDigits, point, digitValues]
  · have more := digits_append (offset + 1) all stops
    have starts : (⟨46 :: (first :: others ++ rest), offset⟩ : Cursor).peek? = some '.' := rfl
    change fractionDigits ⟨46 :: (first :: others ++ rest), offset⟩ = _
    simp only [fractionDigits, starts, if_true, Cursor.advance_one, more, digitValues]
    simp
    omega

/-- The number that the digits of an exponent collect behind those before, or the digits behind the
one that makes it too large.
-/
def exponentOf (collected : Nat) : List UInt8 → Except (List UInt8) Nat
  | [] => .ok collected
  | digit :: others =>
      let more := collected * 10 + (digit.toNat - 48)
      if largestExponent < more then .error others else exponentOf more others

theorem exponentOf_digits {digits behind : List UInt8} {collected : Nat}
    (all : ∀ byte ∈ digits, isDigitByte byte) (large : exponentOf collected digits = .error behind)
    : ∀ byte ∈ behind, isDigitByte byte := by
  induction digits generalizing collected with
  | nil => cases large
  | cons first others ih =>
      have all : ∀ byte ∈ others, isDigitByte byte := fun byte member => all byte (.tail _ member)
      rw [exponentOf] at large
      split at large
      · obtain rfl := Except.error.inj large
        exact all
      · exact ih all large

/-- The digits of an exponent are read as they collect, by induction on them. -/
theorem exponentDigits_append {digits : List UInt8} (all : ∀ byte ∈ digits, isDigitByte byte)
    (stops : NoDigit rest) (collected budget offset : Nat) (enough : digits.length ≤ budget)
    : exponentDigits collected budget ⟨digits ++ rest, offset⟩
      = ((exponentOf collected digits).map fun value =>
          (value, (⟨rest, offset + digits.length⟩ : Cursor))).mapError fun behind =>
            ⟨behind ++ rest, offset + digits.length - behind.length⟩ := by
  induction digits generalizing collected budget offset with
  | nil =>
      cases budget with
      | zero => rfl
      | succ budget =>
          cases rest with
          | nil => rfl
          | cons byte behind =>
              have other : (Char.ofNat byte.toNat).isDigit = false := by
                simpa [NoDigit, isDigitByte] using stops
              simp [exponentDigits, Cursor.next?, other, exponentOf, Except.map, Except.mapError]
  | cons first others ih =>
      obtain ⟨budget, rfl⟩ := Nat.exists_eq_add_one.mpr (Nat.lt_of_lt_of_le (Nat.succ_pos _) enough)
      have digit : (Char.ofNat first.toNat).isDigit := all first (.head _)
      have all : ∀ byte ∈ others, isDigitByte byte := fun byte member => all byte (.tail _ member)
      have enough : others.length ≤ budget := Nat.le_of_succ_le_succ enough
      simp only [exponentDigits, exponentOf, List.cons_append, Cursor.next?_cons, digit, if_true,
        toNat_char]
      split
      · simp only [Except.map, Except.mapError, List.length_cons]
        congr 2
        omega
      · have moved : offset + 1 + others.length = offset + (first :: others).length := by
          simp only [List.length_cons]
          omega
        rw [ih all _ _ _ enough, moved]

/-- The exponent of digits behind a sign, if its size does not put the number out of range. -/
def signedExponent (zero negative : Bool) (digits : List UInt8) : Option (Option Int) :=
  match exponentOf 0 digits with
  | .ok value => some (some (if negative then -(value : Int) else value))
  | .error _ => if !zero && !negative then none else some none

/-- The first digit of an exponent is never too large. -/
theorem exponentOf_cons {first : UInt8} (digit : isDigitByte first) (others : List UInt8)
    : exponentOf 0 (first :: others) = exponentOf (first.toNat - 48) others := by
  have small := (isDigitByte_iff.mp digit).2
  have small : ¬largestExponent < first.toNat - 48 := by
    have large : 9 ≤ largestExponent := by decide
    omega
  simp only [exponentOf, Nat.zero_mul, Nat.zero_add, small, if_false]

/-- What is made of the digits of an exponent behind its mark and its sign. -/
theorem outcome_exponentDigits {first : UInt8} {others : List UInt8} (zero negative : Bool)
    (all : ∀ byte ∈ first :: others, isDigitByte byte) (stops : NoDigit rest)
    : outcome (match exponentDigits (first.toNat - 48) (others ++ rest).length
          ⟨others ++ rest, offset⟩ with
        | .ok (value, after) => .ok (some (if negative then -(value : Int) else value), after)
        | .error beyond =>
            if !zero && !negative then .error (beyond.here .numberOutOfRange)
            else .ok (none, beyond.digits.2))
      = (signedExponent zero negative (first :: others)).map (·, rest) := by
  have allOthers : ∀ byte ∈ others, isDigitByte byte := fun byte member => all byte (.tail _ member)
  rw [exponentDigits_append allOthers stops _ _ _ (by simp), signedExponent,
    exponentOf_cons (all first (.head _))]
  cases found : exponentOf (first.toNat - 48) others with
  | ok value => rfl
  | error behind =>
      have digits := digits_append (offset + others.length - behind.length)
        (exponentOf_digits allOthers found) stops
      simp only [Except.map, Except.mapError, digits]
      split <;> rfl

theorem ne_of_isDigit (other : Char) {char : Char} (digit : char.isDigit)
    (none : other.isDigit = false)
    : char ≠ other := by
  rintro rfl
  rw [none] at digit
  cases digit

theorem ne_of_isDigitByte {byte other : UInt8} (digit : isDigitByte byte)
    (none : isDigitByte other = false)
    : byte ≠ other := by
  rintro rfl
  rw [none] at digit
  cases digit

theorem exponentPart_append {mark first : UInt8} {sign others : List UInt8} (zero : Bool)
    (marks : mark = 101 ∨ mark = 69) (signs : sign = [] ∨ sign = [43] ∨ sign = [45])
    (all : ∀ byte ∈ first :: others, isDigitByte byte) (stops : NoDigit rest)
    : outcome (exponentPart zero ⟨mark :: (sign ++ first :: (others ++ rest)), offset⟩)
      = (signedExponent zero (sign = [45]) (first :: others)).map (·, rest) := by
  have marked : (⟨mark :: (sign ++ first :: (others ++ rest)), offset⟩ : Cursor).peek? = some 'e'
      ∨ (⟨mark :: (sign ++ first :: (others ++ rest)), offset⟩ : Cursor).peek? = some 'E' := by
    rcases marks with rfl | rfl
    · exact .inl rfl
    · exact .inr rfl
  have digit : (Char.ofNat first.toNat).isDigit := all first (.head _)
  unfold exponentPart
  rw [if_pos marked]
  simp only [Cursor.advance_one]
  rcases signs with rfl | rfl | rfl
  · have plus := ne_of_isDigit '+' digit rfl
    have minus := ne_of_isDigit '-' digit rfl
    simp only [List.nil_append, Cursor.peek?_cons, Option.some.injEq, plus, minus, or_self,
      if_false, Cursor.next?_cons, digit, if_true, toNat_char]
    exact outcome_exponentDigits zero false all stops
  · have plus : Char.ofNat (43 : UInt8).toNat = '+' := rfl
    simp only [List.cons_append, List.nil_append, Cursor.peek?_cons, plus, true_or, if_true,
      Cursor.advance_one, Cursor.next?_cons, digit, toNat_char]
    exact outcome_exponentDigits zero false all stops
  · have minus : Char.ofNat (45 : UInt8).toNat = '-' := rfl
    simp only [List.cons_append, List.nil_append, Cursor.peek?_cons, minus, or_true, if_true,
      Cursor.advance_one, Cursor.next?_cons, digit, toNat_char]
    exact outcome_exponentDigits zero true all stops

/-- What is read from bytes alone is read from them wherever a number may end behind them, if it
does not depend on what stands there.
-/
theorem reads_alone {α : Type} {read : Decoder α} {text : List UInt8}
    (local_ : ∃ result, ∀ rest, Ends rest → Reads read (text ++ rest) result rest)
    (ends : Ends rest)
    : Reads read (text ++ rest) ((read (.start text)).toOption.map (·.1)) rest := by
  obtain ⟨result, reads⟩ := local_
  have alone : (read (.start text)).toOption.map (·.1) = result := by
    have reads := reads [] ends_nil 0
    rw [List.append_nil] at reads
    unfold Cursor.start
    cases result with
    | none =>
        obtain ⟨_, fails⟩ := outcome_eq_none.mp reads
        rw [fails]
        rfl
    | some value =>
        obtain ⟨_, reads⟩ := outcome_eq_some.mp reads
        rw [reads]
        rfl
  rw [alone]
  exact reads rest ends

namespace NumberText

/-- The bytes of a number begin with a minus or with a digit. -/
theorem bytes_cases (text : NumberText)
    : text.negative ∧ text.bytes = 45 :: text.unsigned
      ∨ text.negative = false ∧ ∃ byte others,
          text.bytes = text.unsigned ∧ text.unsigned = byte :: others ∧ isDigitByte byte := by
  unfold bytes
  cases text.negative with
  | true => exact .inl ⟨rfl, rfl⟩
  | false =>
      refine .inr ⟨rfl, ?_⟩
      unfold unsigned
      rcases text.whole_digits with same | ⟨first, others, same, _, all⟩
      · rw [same]
        exact ⟨_, _, rfl, rfl, rfl⟩
      · have digit := all first (by simp [same])
        rw [same]
        exact ⟨_, _, rfl, rfl, digit⟩

/-- The exponent of a number with a significand that is zero or not. -/
def exponent? (text : NumberText) (zero : Bool) : Option (Option Int) :=
  (exponentPart zero (.start text.exponent)).toOption.map (·.1)

/-- The number of its digits and of its exponent. -/
def ofDigits? (negative marked : Bool) (whole fraction : List Nat)
    (exponent? : Bool → Option (Option Int)) : Option Number :=
  let (significand, _, left) := collect 0 whole
  let (significand, appended, _) := collect significand fraction
  (exponent? (significand == 0)).bind fun exponent? =>
    if fraction.isEmpty ∧ ¬marked ∧ left = 0 then
      some (wholeNumber negative significand)
    else
      match exponent? with
      | none => some (.float ⟨negative, .zero⟩)
      | some exponent =>
          let base := (Magnitude.round? significand 1).getD .largest
          let power := boundedExponent ((left : Int) - appended + exponent)
          (base.scale10? power).map fun magnitude => .float ⟨negative, magnitude⟩

/-- The exponent of a number, read up to where the number ends. -/
theorem reads_exponentPart (text : NumberText) (zero : Bool) (ends : Ends rest)
    : Reads (exponentPart zero) (text.exponent ++ rest) (text.exponent? zero) rest := by
  refine reads_alone ?_ ends
  rcases text.exponent_digits with none | ⟨mark, sign, first, others, same, marks, signs, all⟩
  · refine ⟨some (some 0), fun rest ends offset => ?_⟩
    have unmarked : ¬((⟨rest, offset⟩ : Cursor).peek? = some 'e'
        ∨ (⟨rest, offset⟩ : Cursor).peek? = some 'E') := by
      rintro (goesOn | goesOn)
      · exact ends.peek? (by decide) goesOn
      · exact ends.peek? (by decide) goesOn
    rw [none, List.nil_append, exponentPart, if_neg unmarked]
    rfl
  · refine ⟨signedExponent zero (sign = [45]) (first :: others), fun rest ends offset => ?_⟩
    rw [same, List.cons_append, List.append_assoc, List.cons_append]
    exact exponentPart_append zero marks signs all ends.noDigit

section

variable (text : NumberText) (ends : Ends rest)
include ends

/-- Whether a number has an exponent shows at the first byte behind its fraction. -/
theorem peek?_exponent (offset : Nat)
    : ((⟨text.exponent ++ rest, offset⟩ : Cursor).peek? = some 'e'
        ∨ (⟨text.exponent ++ rest, offset⟩ : Cursor).peek? = some 'E')
      ↔ text.exponent ≠ [] := by
  rcases text.exponent_digits with none | ⟨mark, sign, first, others, same, rfl | rfl, _, _⟩
  · simp [none, @Ends.peek? rest offset ends]
  · simp only [same, ne_eq, reduceCtorEq, not_false_eq_true, iff_true]
    exact .inl rfl
  · simp only [same, ne_eq, reduceCtorEq, not_false_eq_true, iff_true]
    exact .inr rfl

/-- The exponent goes on with no digit and no point. -/
theorem noDigit_exponent
    : NoDigit (text.exponent ++ rest)
      ∧ ∀ offset, (⟨text.exponent ++ rest, offset⟩ : Cursor).peek? ≠ some '.' := by
  rcases text.exponent_digits with none | ⟨mark, sign, first, others, same, rfl | rfl, _, _⟩
  · rw [none]
    exact ⟨ends.noDigit, fun offset => ends.peek? (by decide)⟩
  · rw [same]
    exact ⟨rfl, fun offset point => by cases Option.some.inj point⟩
  · rw [same]
    exact ⟨rfl, fun offset point => by cases Option.some.inj point⟩

theorem noDigit_fraction : NoDigit (text.fraction ++ (text.exponent ++ rest)) := by
  rcases text.fraction_digits with none | ⟨first, others, same, _⟩
  · rw [none]
    exact (text.noDigit_exponent ends).1
  · rw [same]
    rfl

end

/-- A number is made of its digits and of its exponent, whatever stands behind it. -/
theorem number_append (text : NumberText) (ends : Ends rest)
    : Reads (Decode.number text.negative) (text.unsigned ++ rest)
        (ofDigits? text.negative (text.exponent ≠ []) (digitValues text.whole)
          (digitValues (text.fraction.drop 1)) text.exponent?) rest := by
  intro offset
  unfold unsigned Decode.number ofDigits?
  rw [List.append_assoc, List.append_assoc,
    wholeDigits_append text.whole_digits (text.noDigit_fraction ends)]
  simp only [bind, Except.bind]
  rw [fractionDigits_append text.fraction_digits (text.noDigit_exponent ends).1
    ((text.noDigit_exponent ends).2 _)]
  simp only [text.peek?_exponent ends]
  rw [Option.map_bind]
  refine outcome_bind (text.reads_exponentPart _ ends _) fun exponent after => ?_
  simp only [Function.comp_apply, decide_eq_true_eq]
  split
  · rfl
  · cases exponent with
    | none => rfl
    | some exponent =>
        simp only
        split <;> rename_i found <;> simp only [found] <;> rfl

/-- A number in a text is the number on its own. -/
theorem reads_number (text : NumberText) (ends : Ends rest)
    : Reads (Decode.number text.negative) (text.unsigned ++ rest) text.value? rest :=
  reads_alone ⟨_, fun _ ends => text.number_append ends⟩ ends

/-- The number of its digits and of its exponent. -/
theorem value?_eq (text : NumberText)
    : text.value?
      = ofDigits? text.negative (text.exponent ≠ []) (digitValues text.whole)
          (digitValues (text.fraction.drop 1)) text.exponent? := by
  have reads := text.reads_number ends_nil 0
  rw [text.number_append ends_nil 0] at reads
  exact (Option.map_injective (fun _ _ => congrArg Prod.fst) reads).symm

end NumberText

end ComponentCrd.Json
