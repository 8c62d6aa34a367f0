import ComponentCrd.Json.Text

/-! YAML scalars for strings: plain where no reader can take the text for anything but a string,
and double-quoted everywhere else.
-/

namespace ComponentCrd.Yaml

/-- Words that a reader may take for a truth value, a null or a number. -/
def reservedWords : List String :=
  ["true", "false", "yes", "no", "on", "off", "null", "y", "n", "nan", "inf"]

/-- What may stand in a plain scalar after its first letter. -/
def isPlainChar (c : Char) : Bool :=
  c.isAlphanum || c == '_' || c == '.' || c == '/' || c == '-'

/-- Whether a text is one of the reserved words, in any mixture of cases. -/
def isReserved (text : List Char) : Bool :=
  reservedWords.any fun word => word.toList == text.map Char.toLower

/-- Whether a text may stand as a plain scalar: a letter, then letters, digits and a few marks,
and no reserved word.
-/
def isPlain (text : List Char) : Bool :=
  text.head?.any Char.isAlpha && text.all isPlainChar && !isReserved text

/-- Whether a character may stand for itself between double quotes. -/
def isPrintable (c : Char) : Bool :=
  let code := c.toNat
  code == 0x09 || code == 0x0A || code == 0x0D || (0x20 ≤ code && code ≤ 0x7E)
    || (0xA0 ≤ code && code ≤ 0xD7FF) || (0xE000 ≤ code && code ≤ 0xFEFE)
    || (0xFF00 ≤ code && code ≤ 0xFFFD) || 0x10000 ≤ code

/-- A character between double quotes: itself, or its code in two or in four digits. -/
def visibleChar (c : Char) : List Char :=
  let code := c.toNat
  if isPrintable c then
    [c]
  else if code ≤ 0xFF then
    ['\\', 'x', Text.upperHex (code / 16), Text.upperHex code]
  else
    ['\\', 'u', Text.upperHex (code / 4096), Text.upperHex (code / 256),
      Text.upperHex (code / 16), Text.upperHex code]

/-- A text in double quotes: the JSON string, in which what a reader would reject is shown by its
code. Where there is no such character the string is taken as it is.
-/
def doubleQuoted (text : String) : List Char :=
  let json := Json.stringChars text
  if json.all isPrintable then json else json.flatMap visibleChar

/-- The scalar of a text. -/
def scalarOf (text : String) : List Char :=
  if isPlain text.toList then text.toList else doubleQuoted text

end ComponentCrd.Yaml
