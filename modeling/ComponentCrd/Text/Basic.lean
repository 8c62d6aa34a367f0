/-! Characters and texts as lists of characters: sets of code points, blanks, the parts between
separators, digits and the numbers that they stand for, and the bytes of a text.
-/

namespace ComponentCrd.Text

/-! ### Characters -/

/-- Whether a code point lies in one of the stretches, each given by its first and last one. -/
def within (stretches : List (Nat × Nat)) (code : Nat) : Bool :=
  stretches.any fun (first, last) => first ≤ code && code ≤ last

/-- Whether a character is blank: spaces of any width and the characters that end lines. -/
def isBlank (c : Char) : Bool :=
  let code := c.toNat
  (0x09 ≤ code && code ≤ 0x0D) || (0x2000 ≤ code && code ≤ 0x200A)
    || [0x20, 0x85, 0xA0, 0x1680, 0x2028, 0x2029, 0x202F, 0x205F, 0x3000].contains code

/-- The text without blanks at its ends. -/
def trim (text : List Char) : List Char :=
  ((text.dropWhile isBlank).reverse.dropWhile isBlank).reverse

/-! ### Separators -/

/-- The parts of a text between the separators; there is one more than there are separators. -/
def segments (separator : Char) : List Char → List (List Char)
  | [] => [[]]
  | c :: rest =>
      if c = separator then
        [] :: segments separator rest
      else
        match segments separator rest with
        | [] => [[c]]
        | first :: others => (c :: first) :: others

/-! ### Digits -/

/-- The value of a digit; letters of both cases are the digits from ten on. -/
def digitValue? (base : Nat) (c : Char) : Option Nat :=
  let value? :=
    if c.isDigit then some (c.toNat - 48)
    else if 'a' ≤ c ∧ c ≤ 'f' then some (c.toNat - 87)
    else if 'A' ≤ c ∧ c ≤ 'F' then some (c.toNat - 55)
    else none
  value?.filter (· < base)

/-- The number with the given digit values, the most significant first. -/
def ofDigits (base : Nat) (values : List Nat) : Nat :=
  values.foldl (fun number value => number * base + value) 0

/-- The number that digits stand for; no digits stand for zero. -/
def numberOf? (base : Nat) (digits : List Char) : Option Nat :=
  (digits.mapM (digitValue? base)).map (ofDigits base)

/-- The last hexadecimal digit of a number, in lower case. -/
def lowerHex (n : Nat) : Char := Nat.digitChar (n % 16)

/-- The last hexadecimal digit of a number, in upper case. -/
def upperHex (n : Nat) : Char := (lowerHex n).toUpper

/-! ### Bytes -/

/-- How many bytes from `start` on belong to whole characters before the first malformed place. -/
def utf8PrefixFrom (bytes : ByteArray) (start : Nat) : Nat :=
  if start < bytes.size then
    match bytes.utf8DecodeChar? start with
    | some c => c.utf8Size + utf8PrefixFrom bytes (start + c.utf8Size)
    | none => 0
  else
    0
termination_by bytes.size - start
decreasing_by
  have := Char.utf8Size_pos c
  omega

/-- The text of a byte string, or the length of its longest well-formed beginning. -/
def ofUtf8 (bytes : List UInt8) : Except Nat String :=
  match String.fromUTF8? bytes.toByteArray with
  | some text => .ok text
  | none => .error (utf8PrefixFrom bytes.toByteArray 0)

/-- The bytes of a text. -/
def toUtf8 (text : String) : List UInt8 := text.toList.flatMap String.utf8EncodeChar

end ComponentCrd.Text
