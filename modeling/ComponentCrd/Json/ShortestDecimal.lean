import ComponentCrd.Json.Binary64

/-! The shortest decimal that reads back as a given binary64 magnitude, and its text.
Candidates are the two neighbours of the exact value on the grid of one digit, two digits, and so
on; the first grid with a neighbour that reads back decides.
-/

namespace ComponentCrd

/-- A positive decimal `0.d₁d₂… × 10 ^ point`, without a leading or a trailing zero digit. -/
structure Decimal where
  digits : List Nat
  point : Int
deriving DecidableEq, Repr

namespace Decimal

/-- The decimal digits of a number, the most significant first; zero has none. -/
def digitsOf (n : Nat) : List Nat := go n []
where
  /-- Prepends the digits of the number to those already found. -/
  go (n : Nat) (found : List Nat) : List Nat :=
    if n = 0 then found else go (n / 10) (n % 10 :: found)
  termination_by n
  decreasing_by omega

/-- The digits without the zeros at their end. -/
def withoutTrailingZeros (digits : List Nat) : List Nat :=
  (digits.reverse.dropWhile (· == 0)).reverse

/-- The position of the decimal point before the first digit of `num / den`: the number `k` with
`10 ^ (k - 1) ≤ num / den < 10 ^ k`.
-/
def pointOf (num den : Nat) : Int :=
  if den ≤ num then
    (digitsOf (num / den)).length
  else
    1 - ((digitsOf ((den - 1) / num)).length : Int)

/-- `count * 10 ^ power` as a quotient of natural numbers. -/
def gridPoint (count : Nat) (power : Int) : Nat × Nat :=
  if 0 ≤ power then (count * Nat.pow 10 power.toNat, 1) else (count, Nat.pow 10 (-power).toNat)

/-- Whether the point of the grid reads back as the magnitude. -/
def readsBack (m : Magnitude) (count : Nat) (power : Int) : Bool :=
  let (num, den) := gridPoint count power
  Magnitude.round? num den == some m

/-- The neighbour of the magnitude that reads back on the grid of `width` digits; of two the
nearer, of two equally near the even one.
-/
def onGrid? (m : Magnitude) (point : Int) (width : Nat) : Option (Nat × Int) :=
  let (num, den) := m.quotient
  let power := point - width
  let scaledNum := if 0 ≤ power then num else num * Nat.pow 10 (-power).toNat
  let scaledDen := if 0 ≤ power then den * Nat.pow 10 power.toNat else den
  let low := scaledNum / scaledDen
  let high := low + 1
  let twice := 2 * (scaledNum % scaledDen)
  match readsBack m low power, readsBack m high power with
  | true, true =>
      if twice < scaledDen || (twice == scaledDen && low % 2 == 0) then some (low, power)
      else some (high, power)
  | true, false => some (low, power)
  | false, true => some (high, power)
  | false, false => none

/-- The shortest decimal that reads back as the magnitude, for a magnitude above zero.
Seventeen digits always suffice.
-/
def shortest (m : Magnitude) : Decimal :=
  let (num, den) := m.quotient
  let point := pointOf num den
  let widths := (List.range 17).map (· + 1)
  let (count, power) := (widths.findSome? (onGrid? m point)).getD (num / den, 0)
  let digits := digitsOf count
  { digits := withoutTrailingZeros digits, point := power + digits.length }

/-- The characters of a list of digits. -/
def digitChars (digits : List Nat) : List Char := digits.map Nat.digitChar

/-- Positional notation from a hundred-thousandth up to, but without, ten to the sixteenth, always
with a digit after the point; beyond that one digit, the rest after a point, and a signed
exponent.
-/
def chars (d : Decimal) : List Char :=
  let digits := digitChars d.digits
  let zeros (n : Int) : List Char := List.replicate n.toNat '0'
  if 0 < d.point ∧ d.point ≤ 16 then
    if digits.length ≤ d.point.toNat then
      digits ++ zeros (d.point - digits.length) ++ ['.', '0']
    else
      digits.take d.point.toNat ++ '.' :: digits.drop d.point.toNat
  else if -5 < d.point ∧ d.point ≤ 0 then
    '0' :: '.' :: zeros (-d.point) ++ digits
  else
    let exponent := d.point - 1
    let fraction := if digits.length ≤ 1 then [] else '.' :: digits.drop 1
    let sign := if exponent < 0 then '-' else '+'
    digits.take 1 ++ fraction ++ 'e' :: sign :: (toString exponent.natAbs).toList

end Decimal

/-- The text of a double: the shortest decimal that reads back, `0.0` for zero, and the sign. -/
def Binary64.chars (x : Binary64) : List Char :=
  let unsigned :=
    if x.magnitude = Magnitude.zero then ['0', '.', '0'] else (Decimal.shortest x.magnitude).chars
  if x.negative then '-' :: unsigned else unsigned

end ComponentCrd
