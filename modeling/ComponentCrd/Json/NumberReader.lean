import ComponentCrd.Json.Cursor

/-! Numbers in a JSON text. A number without fraction and exponent is whole as long as 64 bits
hold it; every other one is a double made from the digits that fit into 64 bits and a power of
ten.
-/

namespace ComponentCrd.Json.Decode

/-- The largest significand that is collected from the digits of a number. -/
def largestSignificand : Nat := Nat.pow 2 64 - 1

/-- The largest exponent that is collected from the digits of an exponent. -/
def largestExponent : Nat := Nat.pow 2 31 - 1

/-- Appends digits to a significand as long as it fits; also how many digits were appended and how
many were left out.
-/
def collect (significand : Nat) : List Nat → Nat × Nat × Nat
  | [] => (significand, 0, 0)
  | digit :: rest =>
      if largestSignificand < significand * 10 + digit then
        (significand, 0, rest.length + 1)
      else
        let (result, appended, left) := collect (significand * 10 + digit) rest
        (result, appended + 1, left)

/-- The digits before the point. A zero stands alone. -/
def wholeDigits : Decoder (List Nat) := fun c =>
  match c.next? with
  | none => .error (c.here .endInValue)
  | some (first, after) =>
      if first = '0' then
        match after.peek? with
        | some follower =>
            if follower.isDigit then .error (after.ahead .invalidNumber) else .ok ([0], after)
        | none => .ok ([0], after)
      else if first.isDigit then
        let (others, after) := after.digits
        .ok ((first.toNat - 48) :: others, after)
      else
        .error (after.here .invalidNumber)

/-- The digits after the point, of which there is at least one; none without a point. -/
def fractionDigits : Decoder (List Nat) := fun c =>
  if c.peek? = some '.' then
    let (found, after) := (c.advance 1).digits
    if found.isEmpty then
      match after.peek? with
      | some _ => .error (after.ahead .invalidNumber)
      | none => .error (after.here .endInValue)
    else
      .ok (found, after)
  else
    .ok ([], c)

/-- Collects the remaining digits of an exponent; a fault at the place after the first digit that
makes it too large.
-/
def exponentDigits (collected : Nat) : (budget : Nat) → Cursor → Except Cursor (Nat × Cursor)
  | 0, c => .ok (collected, c)
  | budget + 1, c =>
      match c.next? with
      | some (digit, after) =>
          if digit.isDigit then
            let more := collected * 10 + (digit.toNat - 48)
            if largestExponent < more then .error after else exponentDigits more budget after
          else
            .ok (collected, c)
      | none => .ok (collected, c)

/-- The exponent of a number with a significand that is `zero` or not; zero without an exponent
part. An exponent too large for 32 bits is out of range if it is positive and the significand is
not zero, and otherwise makes the number zero, for which the result is none.
-/
def exponentPart (zero : Bool) : Decoder (Option Int) := fun c =>
  if c.peek? = some 'e' ∨ c.peek? = some 'E' then
    let c := c.advance 1
    let negative := c.peek? = some '-'
    let c := if c.peek? = some '+' ∨ negative then c.advance 1 else c
    match c.next? with
    | none => .error (c.here .endInValue)
    | some (first, after) =>
        if first.isDigit then
          match exponentDigits (first.toNat - 48) after.rest.length after with
          | .ok (value, after) => .ok (some (if negative then -(value : Int) else value), after)
          | .error beyond =>
              if !zero && !negative then
                .error (beyond.here .numberOutOfRange)
              else
                .ok (none, beyond.digits.2)
        else
          .error (after.here .invalidNumber)
  else
    .ok (some 0, c)

/-- A sum of exponents, kept within 32 bits. -/
def boundedExponent (exponent : Int) : Int :=
  max (-(largestExponent : Int) - 1) (min largestExponent exponent)

/-- A number written with digits only. -/
def wholeNumber (negative : Bool) (significand : Nat) : Number :=
  if negative then
    if significand = 0 ∨ Nat.pow 2 63 < significand then
      .float ⟨true, (Magnitude.round? significand 1).getD .largest⟩
    else
      .integer (-(significand : Int))
  else
    .integer significand

/-- A number whose sign has been read. -/
def number (negative : Bool) : Decoder Number := fun c => do
  let (whole, c) ← wholeDigits c
  let (fraction, c) ← fractionDigits c
  let (significand, _, left) := collect 0 whole
  let (significand, appended, _) := collect significand fraction
  let marked := c.peek? = some 'e' ∨ c.peek? = some 'E'
  let (exponent?, c) ← exponentPart (significand == 0) c
  if fraction.isEmpty ∧ ¬ marked ∧ left = 0 then
    return (wholeNumber negative significand, c)
  match exponent? with
  | none => return (.float ⟨negative, .zero⟩, c)
  | some exponent =>
      let base := (Magnitude.round? significand 1).getD .largest
      match base.scale10? (boundedExponent ((left : Int) - appended + exponent)) with
      | some magnitude => return (.float ⟨negative, magnitude⟩, c)
      | none => throw (c.here .numberOutOfRange)

end ComponentCrd.Json.Decode
