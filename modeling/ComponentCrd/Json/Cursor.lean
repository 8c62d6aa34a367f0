import ComponentCrd.Json.Fault

/-! A place in the bytes of a JSON text, and the steps that every reader takes from it.
A byte is looked at as the character of its number, so that no byte of a longer character is taken
for an ASCII one.
-/

namespace ComponentCrd.Json

/-- The bytes not yet read, and how many have been. -/
structure Cursor where
  rest : List UInt8
  offset : Nat
deriving DecidableEq, Repr

namespace Cursor

/-- The beginning of a text. -/
def start (text : List UInt8) : Cursor := ⟨text, 0⟩

/-- The next byte as a character. -/
def peek? (c : Cursor) : Option Char := c.rest.head?.map fun byte => Char.ofNat byte.toNat

/-- Past some bytes, at most to the end. -/
def advance (c : Cursor) (count : Nat) : Cursor :=
  ⟨c.rest.drop count, c.offset + (c.rest.take count).length⟩

/-- The next byte as a character, and the place after it. -/
def next? (c : Cursor) : Option (Char × Cursor) :=
  match c.rest with
  | [] => none
  | byte :: rest => some (Char.ofNat byte.toNat, ⟨rest, c.offset + 1⟩)

/-- A fault at the bytes already read. -/
def here (c : Cursor) (problem : Problem) : Fault := ⟨problem, c.offset⟩

/-- A fault at the byte that comes next, or at the end if none does. -/
def ahead (c : Cursor) (problem : Problem) : Fault := (c.advance 1).here problem

/-- Past the bytes that satisfy a test. -/
def skipWhile (c : Cursor) (test : Char → Bool) : Cursor :=
  c.advance (c.rest.takeWhile fun byte => test (Char.ofNat byte.toNat)).length

/-- Whether a character is one of the four JSON blanks. -/
def isBlank (c : Char) : Bool := c == ' ' || c == '\t' || c == '\n' || c == '\r'

/-- Past blanks. -/
def blanks (c : Cursor) : Cursor := c.skipWhile isBlank

/-- The values of the digits that come next, and the place after them. -/
def digits (c : Cursor) : List Nat × Cursor :=
  let found := c.rest.takeWhile fun byte => (Char.ofNat byte.toNat).isDigit
  (found.map fun byte => byte.toNat - 48, c.advance found.length)

/-- Past the given characters. -/
def word (c : Cursor) : List Char → Except Fault Cursor
  | [] => .ok c
  | expected :: others =>
      match c.next? with
      | none => .error (c.here .endInValue)
      | some (found, after) =>
          if found = expected then after.word others else .error (after.here .expectedWord)

/-- Past blanks and the colon after the name of a member. -/
def colon (c : Cursor) : Except Fault Cursor :=
  let c := c.blanks
  match c.peek? with
  | some ':' => .ok (c.advance 1)
  | some _ => .error (c.ahead .expectedColon)
  | none => .error (c.here .endInObject)

end Cursor

/-- A reader from a place on: a fault, or a result and the place after it. -/
abbrev Decoder (α : Type) := Cursor → Except Fault (α × Cursor)

end ComponentCrd.Json
