import ComponentCrd.Text.Basic

/-! Numeric hosts: the addresses of version 4, with octal, hexadecimal and short forms, and those
of version 6 with their shortest written form.
-/

namespace ComponentCrd.Source

open Text

/-! ### Version 4 -/

/-- The number of a part of an address: hexadecimal behind `0x`, octal behind a zero. -/
def partNumber? : List Char → Option Nat
  | [] => none
  | '0' :: 'x' :: digits => numberOf? 16 digits
  | '0' :: 'X' :: digits => numberOf? 16 digits
  | ['0'] => some 0
  | '0' :: digits => numberOf? 8 digits
  | digits => numberOf? 10 digits

/-- The parts of a host between its dots, without an empty one at the end. -/
def hostParts (host : List Char) : List (List Char) :=
  let parts := segments '.' host
  if parts.getLast? = some [] ∧ 1 < parts.length then parts.dropLast else parts

/-- Whether the last part of a host is a number, which makes the host an address. -/
def endsInNumber (host : List Char) : Bool :=
  match (hostParts host).getLast? with
  | some last => (!last.isEmpty && last.all Char.isDigit) || (partNumber? last).isSome
  | none => false

/-- The address of a host: all parts but the last are bytes, and the last fills the rest. -/
def ipv4? (host : List Char) : Option Nat := do
  let numbers ← (hostParts host).mapM partNumber?
  let last ← numbers.getLast?
  let leading := numbers.dropLast
  let isAddress : Bool :=
    numbers.length ≤ 4 && leading.all (· ≤ 255) && last < Nat.pow 256 (4 - leading.length)
  guard isAddress
  return leading.zipIdx.foldl (fun sum (number, i) => sum + number * Nat.pow 256 (3 - i)) last

/-- The written form of an address: four bytes. -/
def ipv4Text (address : Nat) : List Char :=
  let byte (i : Nat) : List Char := (toString (address / Nat.pow 256 (3 - i) % 256)).toList
  byte 0 ++ '.' :: byte 1 ++ '.' :: byte 2 ++ '.' :: byte 3

/-! ### Version 6 -/

/-- A piece of one to four hexadecimal digits. -/
def piece? (digits : List Char) : Option Nat :=
  if digits.isEmpty || 4 < digits.length then none else numberOf? 16 digits

/-- A byte in decimal digits, without a zero in front of others. -/
def byte? (digits : List Char) : Option Nat :=
  if digits.isEmpty || (digits.head? = some '0' ∧ 1 < digits.length) then none
  else (numberOf? 10 digits).filter (· ≤ 255)

/-- The pieces of a side of an address; the last two may be written as four bytes. -/
def pieces? (mayEndInBytes : Bool) (side : List Char) : Option (List Nat) :=
  if side.isEmpty then
    some []
  else
    let parts := segments ':' side
    match parts.getLast? with
    | none => some []
    | some last =>
        if mayEndInBytes && last.contains '.' then do
          let leading ← parts.dropLast.mapM piece?
          match ← (segments '.' last).mapM byte? with
          | [a, b, c, d] => return leading ++ [a * 256 + b, c * 256 + d]
          | _ => none
        else
          parts.mapM piece?

/-- The text before and the text after the first two colons in a row. -/
def splitAtGap? : List Char → Option (List Char × List Char)
  | ':' :: ':' :: rest => some ([], rest)
  | c :: rest => (splitAtGap? rest).map fun (before, after) => (c :: before, after)
  | [] => none

/-- The eight pieces of an address. A gap of two colons stands for at least one piece of zero. -/
def ipv6? (text : List Char) : Option (List Nat) :=
  match splitAtGap? text with
  | some (before, after) => do
      let left ← pieces? false before
      let right ← pieces? true after
      guard (left.length + right.length < 8)
      return left ++ List.replicate (8 - left.length - right.length) 0 ++ right
  | none => do
      let pieces ← pieces? true text
      guard (pieces.length == 8)
      return pieces

/-- The number of zeros that a list begins with. -/
def zerosAhead (pieces : List Nat) : Nat := (pieces.takeWhile (· == 0)).length

/-- Where the longest run of at least two zeros begins, the first of several, and its length. -/
def longestGap? (pieces : List Nat) : Option (Nat × Nat) :=
  let runs := (List.range pieces.length).map fun i => (i, zerosAhead (pieces.drop i))
  runs.foldl (fun best? run =>
    let longest := (best?.map Prod.snd).getD 1
    if longest < run.2 then some run else best?) none

/-- Pieces in hexadecimal with colons between them. -/
def piecesText (pieces : List Nat) : List Char :=
  [':'].intercalate (pieces.map fun piece => Nat.toDigits 16 piece)

/-- The written form of an address in brackets, with the longest run of zeros left out. -/
def ipv6Text (pieces : List Nat) : List Char :=
  let inside :=
    match longestGap? pieces with
    | some (start, length) =>
        piecesText (pieces.take start) ++ ':' :: ':' :: piecesText (pieces.drop (start + length))
    | none => piecesText pieces
  '[' :: inside ++ [']']

end ComponentCrd.Source
