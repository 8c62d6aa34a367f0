import ComponentCrd.Domain.Admission
import ComponentCrd.Domain.Direction
import ComponentCrd.Domain.Joining
import ComponentCrd.Domain.Punycode
import ComponentCrd.Domain.Spelling
import ComponentCrd.Text.Composition

/-! Labels, the parts of a domain between its dots: which ones are well-formed, and their form in
ASCII characters.
-/

namespace ComponentCrd.Domain

/-- What marks a label in its encoded form. -/
def encodedMark : List Char := ['x', 'n', '-', '-']

/-- The most characters of a label that is encoded. -/
def longestEncoded : Nat := 1000

/-- The most characters of an encoded form, without its mark, that is decoded. -/
def longestDecoded : Nat := 2000

/-- Whether a text has ASCII characters only. -/
def isAscii (text : List Char) : Bool := text.all fun c => c.toNat < 0x80

/-! ### Joiners -/

/-- Whether an invisible character of a label may stand behind the given text, which is in
reverse, and in front of the other: a joiner behind a sign that silences a vowel, and a separator
there or between letters that would join.
-/
def admitsJoiner (before : List Char) (joiner : Char) (after : List Char) : Bool :=
  let followsVirama := (before.head?.map Text.combiningClass) == some 9
  if joiner = '\u200d' then
    followsVirama
  else
    let previous? := before.find? fun c => !isTransparent c
    let next? := after.find? fun c => !isTransparent c
    followsVirama || (previous?.any joinsNext && next?.any joinsPrevious)

/-- Whether every joiner and separator may stand where it does, for the text before in reverse. -/
def joinersFit (before : List Char) : List Char → Bool
  | [] => true
  | c :: rest =>
      let fits := (c != '\u200c' && c != '\u200d') || admitsJoiner before c rest
      fits && joinersFit (c :: before) rest

/-! ### Direction -/

/-- Whether a label has characters that are written from right to left or numbers of such texts.
-/
def hasRightToLeft (label : List Char) : Bool :=
  label.any fun c => [.rightToLeft, .arabicNumber].contains (direction c)

/-- The last direction that is not that of a nonspacing mark. -/
def lastDirection? (directions : List Direction) : Option Direction :=
  (directions.filter (· != .nonspacing)).getLast?

/-- Whether the directions of a label go together. A label begins with a letter, has no letters or
numbers of the other direction, and ends with a letter or a number.
-/
def directionsFit (label : List Char) : Bool :=
  let directions := label.map direction
  let last? := lastDirection? directions
  match directions.head? with
  | none => true
  | some .rightToLeft =>
      !directions.contains .leftToRight
        && !(directions.contains .europeanNumber && directions.contains .arabicNumber)
        && [some .rightToLeft, some .europeanNumber, some .arabicNumber].contains last?
  | some .leftToRight =>
      !directions.contains .rightToLeft && !directions.contains .arabicNumber
        && [some .leftToRight, some .europeanNumber].contains last?
  | some _ => false

/-! ### Labels -/

/-- Whether a character stands in a label as it is. -/
def isPlain (c : Char) : Bool := !isRefused c && !isIgnored c && spelling c == [c]

/-- Whether a label that is not encoded is well-formed, apart from directions. -/
def isWellFormed (label : List Char) : Bool :=
  label.all isPlain && !(label.head?.any Text.isMark) && joinersFit [] label

/-- The label that a written label stands for: itself, or what its encoded form decodes to, which
must need its encoding and must not be spelled in another way.
-/
def decodedLabel? (written : List Char) : Option (List Char) :=
  if encodedMark.isPrefixOf written then do
    let text := written.drop encodedMark.length
    guard (isAscii text && text.length ≤ longestDecoded)
    let label ← Punycode.decode? text
    guard (!isAscii label && Text.composed label == label && !label.contains '.')
    guard (!encodedMark.isPrefixOf label && isWellFormed label)
    return label
  else do
    guard (isWellFormed written)
    return written

/-- The form of a label in ASCII characters. -/
def asciiLabel? (label : List Char) : Option (List Char) :=
  if isAscii label then some label
  else if longestEncoded < label.length then none
  else some (encodedMark ++ Punycode.encode label)

end ComponentCrd.Domain
