/-! Finite binary64 numbers in exact natural-number arithmetic.
A magnitude is its rank among all magnitudes, so rounding is a choice between two neighbours.
-/

namespace ComponentCrd

/-- The magnitudes of the finite doubles in increasing order: rank zero is zero, the first `2 ^
52` ranks are the subnormal numbers, and each later block of `2 ^ 52` ranks doubles the spacing.
-/
abbrev Magnitude := Fin (2047 * Nat.pow 2 52)

/-- A finite double: its sign and the rank of its magnitude. Zero has both signs. -/
structure Binary64 where
  negative : Bool
  magnitude : Magnitude
deriving DecidableEq, Repr

namespace Magnitude

/-- The magnitude zero. -/
def zero : Magnitude := ⟨0, by decide⟩

/-- The largest finite magnitude. -/
def largest : Magnitude := ⟨2047 * Nat.pow 2 52 - 1, by decide⟩

/-- The block of equally spaced magnitudes that a rank belongs to. -/
def block (m : Magnitude) : Nat := m.val / Nat.pow 2 52

/-- The integer that multiplies the spacing; from the second block on it has 53 bits. -/
def significand (m : Magnitude) : Nat :=
  if m.block = 0 then m.val else Nat.pow 2 52 + m.val % Nat.pow 2 52

/-- The power of two that is the spacing, counted from the smallest one, `2 ^ (-1074)`. -/
def shift (m : Magnitude) : Nat := m.block - 1

/-- The magnitude as a quotient of natural numbers. -/
def quotient (m : Magnitude) : Nat × Nat := (m.significand * Nat.pow 2 m.shift, Nat.pow 2 1074)

/-- The binary logarithm of `num / den`, rounded down, for a positive quotient. -/
def floorLog2 (num den : Nat) : Int :=
  let guess : Int := (num.log2 : Int) - den.log2
  let atLeast : Bool :=
    if 0 ≤ guess then den * Nat.pow 2 guess.toNat ≤ num else den ≤ num * Nat.pow 2 (-guess).toNat
  if atLeast then guess else guess - 1

/-- The magnitude nearest to `num / den`, a tie going to the even rank; none when the nearest one
is beyond the largest.
-/
def round? (num den : Nat) : Option Magnitude :=
  if num = 0 ∨ den = 0 then
    some zero
  else
    let exponent := max (floorLog2 num den - 52) (-1074)
    let scaledNum := if exponent < 0 then num * Nat.pow 2 (-exponent).toNat else num
    let scaledDen := if exponent < 0 then den else den * Nat.pow 2 exponent.toNat
    let below := (exponent + 1074).toNat * Nat.pow 2 52 + scaledNum / scaledDen
    let twice := 2 * (scaledNum % scaledDen)
    let up : Bool := scaledDen < twice || (scaledDen == twice && below % 2 == 1)
    let rank := if up then below + 1 else below
    if h : rank < 2047 * Nat.pow 2 52 then some ⟨rank, h⟩ else none

/-- The magnitude nearest to a power of ten; the largest one stands for the powers beyond it. -/
def pow10 (k : Nat) : Magnitude := (round? (Nat.pow 10 k) 1).getD largest

/-- The rounded product, none beyond the largest magnitude. -/
def mul? (a b : Magnitude) : Option Magnitude :=
  let (aNum, aDen) := a.quotient
  let (bNum, bDen) := b.quotient
  round? (aNum * bNum) (aDen * bDen)

/-- The rounded quotient by a magnitude of at least one; it never grows. -/
def div (a b : Magnitude) : Magnitude :=
  let (aNum, aDen) := a.quotient
  let (bNum, bDen) := b.quotient
  (round? (aNum * bDen) (aDen * bNum)).getD a

/-- Multiplies by `10 ^ exponent` with one rounding for each factor of at most `10 ^ 308`;
none when the result is beyond the largest magnitude.
-/
def scale10? (a : Magnitude) (exponent : Int) : Option Magnitude :=
  if 0 ≤ exponent then
    if exponent ≤ 308 then
      mul? a (pow10 exponent.toNat)
    else if a = zero then
      some zero
    else
      none
  else if -308 ≤ exponent then
    some (a.div (pow10 (-exponent).toNat))
  else if a = zero then
    some zero
  else
    scale10? (a.div (pow10 308)) (exponent + 308)
termination_by (-exponent).toNat
decreasing_by omega

/-- Whether the magnitude is a whole number. -/
def isWhole (m : Magnitude) : Bool :=
  let (num, den) := m.quotient
  num % den == 0

end Magnitude

end ComponentCrd
