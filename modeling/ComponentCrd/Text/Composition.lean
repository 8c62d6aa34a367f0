import ComponentCrd.Text.CombiningClass
import ComponentCrd.Text.Composites

/-! The composed form of a text: every character is taken apart, the marks behind a letter are put
in the order of their classes, and what can be composed is composed. Texts that differ only in how
their characters are composed have one composed form.
-/

namespace ComponentCrd.Text

/-! ### Syllables of Hangul

A syllable of Hangul has a leading and a vowel part and possibly a trailing one. Syllables are
numbered by their parts.
-/

/-- The first leading part. -/
def hangulLeading : Nat := 0x1100

/-- The first vowel part. -/
def hangulVowel : Nat := 0x1161

/-- The code point before the first trailing part, which stands for none. -/
def hangulTrailing : Nat := 0x11A7

/-- The first syllable. -/
def hangulSyllable : Nat := 0xAC00

/-- How many leading parts there are. -/
def hangulLeadings : Nat := 19

/-- How many vowel parts there are. -/
def hangulVowels : Nat := 21

/-- How many trailing parts there are, with the empty one. -/
def hangulTrailings : Nat := 28

/-- How many syllables there are. -/
def hangulSyllables : Nat := hangulLeadings * hangulVowels * hangulTrailings

/-- The parts of a syllable of Hangul. -/
def hangulParts? (code : Nat) : Option (List Nat) :=
  if hangulSyllable ≤ code ∧ code < hangulSyllable + hangulSyllables then
    let index := code - hangulSyllable
    let trailing := index % hangulTrailings
    let opening := [hangulLeading + index / (hangulVowels * hangulTrailings),
      hangulVowel + index / hangulTrailings % hangulVowels]
    some (if trailing = 0 then opening else opening ++ [hangulTrailing + trailing])
  else
    none

/-- The syllable of Hangul, or the opening of one, that two code points compose. -/
def hangulComposite? (first second : Nat) : Option Nat :=
  if hangulLeading ≤ first ∧ first < hangulLeading + hangulLeadings
      ∧ hangulVowel ≤ second ∧ second < hangulVowel + hangulVowels then
    some (hangulSyllable
      + ((first - hangulLeading) * hangulVowels + (second - hangulVowel)) * hangulTrailings)
  else if hangulSyllable ≤ first
      ∧ first < hangulSyllable + hangulSyllables
      ∧ (first - hangulSyllable) % hangulTrailings = 0
      ∧ hangulTrailing < second ∧ second < hangulTrailing + hangulTrailings then
    some (first + (second - hangulTrailing))
  else
    none

/-! ### Parts and composites -/

/-- The two parts of a composed character. -/
def parts? (code : Nat) : Option (Nat × Nat) :=
  (if code < 0x1E00 then compositesLow else compositesHigh).findSome? fun (first, parts) =>
    if code < first then none else parts[code - first]?

/-- The code points of a character that is taken apart at most so many times. -/
def decomposition : Nat → Nat → List Nat
  | 0, code => [code]
  | depth + 1, code =>
      match parts? code with
      | some (base, mark) => decomposition depth base ++ [mark]
      | none => [code]

/-- The code points of a character that is taken apart. No character needs more than three steps.
-/
def decomposed (code : Nat) : List Nat :=
  (hangulParts? code).getD (decomposition 3 code)

/-- The character that two code points compose. -/
def composite? (first second : Nat) : Option Nat :=
  (hangulComposite? first second).or <|
    (compositesLow ++ compositesHigh).findSome? fun (start, parts) =>
      (parts.findIdx? (· == (first, second))).map (start + ·)

/-! ### The composed form -/

/-- The combining class of a code point. -/
def classOf (code : Nat) : Nat := combiningClass (Char.ofNat code)

/-- Puts a code point in front of a text, past the marks of lower classes if it is a mark. -/
def insertOrdered (code : Nat) : List Nat → List Nat
  | [] => [code]
  | next :: rest =>
      if 0 < classOf next ∧ classOf next < classOf code then
        next :: insertOrdered code rest
      else
        code :: next :: rest

/-- Composes what follows a starting character with it. A mark is composed unless one of its class
or a higher one stands between; `between` are those that stand there, and `highest` is the class
of the last of them.
-/
def composeFrom (start : Nat) (between : List Nat) (highest : Nat) : List Nat → List Nat
  | [] => start :: between
  | code :: rest =>
      let isBlocked := !between.isEmpty && classOf code ≤ highest
      match if isBlocked then none else composite? start code with
      | some composed => composeFrom composed between highest rest
      | none =>
          if classOf code = 0 then
            start :: between ++ composeFrom code [] 0 rest
          else
            composeFrom start (between ++ [code]) (classOf code) rest

/-- Composes code points that are in order; marks at the beginning stay. -/
def composeCodes : List Nat → List Nat
  | [] => []
  | code :: rest =>
      if classOf code = 0 then composeFrom code [] 0 rest else code :: composeCodes rest

/-- The composed form of a text. A text of ASCII characters is its own. -/
def composed (text : List Char) : List Char :=
  if text.all fun c => c.toNat < 0x80 then
    text
  else
    let codes := (text.map Char.toNat).flatMap decomposed
    (composeCodes (codes.foldr insertOrdered [])).map Char.ofNat

end ComponentCrd.Text
