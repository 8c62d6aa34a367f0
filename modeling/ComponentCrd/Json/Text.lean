import ComponentCrd.Json.ShortestDecimal
import ComponentCrd.Json.Value
import ComponentCrd.Text.Basic

/-! The compact text of a JSON value: no blanks, members in their order, and only the quote, the
backslash and the controls below the space escaped.
-/

namespace ComponentCrd

/-- The text of a number. -/
def Number.chars : Number → List Char
  | .integer value => (toString value).toList
  | .float value => value.chars

namespace Json

/-- A character as it stands inside a JSON string. -/
def escapedChar (c : Char) : List Char :=
  match c with
  | '"' => ['\\', '"']
  | '\\' => ['\\', '\\']
  | '\x08' => ['\\', 'b']
  | '\t' => ['\\', 't']
  | '\n' => ['\\', 'n']
  | '\x0c' => ['\\', 'f']
  | '\r' => ['\\', 'r']
  | c =>
      if c.toNat < 0x20 then
        ['\\', 'u', '0', '0', Text.lowerHex (c.toNat / 16), Text.lowerHex c.toNat]
      else [c]

/-- A string in quotes. -/
def stringChars (text : String) : List Char := '"' :: text.toList.flatMap escapedChar ++ ['"']

mutual

/-- The characters of the compact text. -/
def chars : Json → List Char
  | .null => ['n', 'u', 'l', 'l']
  | .bool true => ['t', 'r', 'u', 'e']
  | .bool false => ['f', 'a', 'l', 's', 'e']
  | .number value => value.chars
  | .string text => stringChars text
  | .array items => '[' :: itemChars true items ++ [']']
  | .object members => '\x7b' :: memberChars true members ++ ['\x7d']

/-- The items of a list, with a comma before all but the first. -/
def itemChars (first : Bool) : List Json → List Char
  | [] => []
  | item :: rest => (if first then [] else [',']) ++ chars item ++ itemChars false rest

/-- The members of an object, with a comma before all but the first. -/
def memberChars (first : Bool) : List (String × Json) → List Char
  | [] => []
  | (name, value) :: rest =>
      (if first then [] else [',']) ++ stringChars name ++ ':' :: chars value
        ++ memberChars false rest

end

/-- The compact text. -/
def compact (value : Json) : String := String.ofList value.chars

end Json

end ComponentCrd
