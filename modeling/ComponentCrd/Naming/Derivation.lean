import ComponentCrd.Naming.Rule
import ComponentCrd.Text.Basic
import ComponentCrd.Text.LetterCase

/-! Names made from other names: keys of groups from package names, names with dashes from kinds,
plurals, and versions of an interface from versions of a package.
-/

namespace ComponentCrd.Naming

/-- The rest of a group key: the letters and digits, with a dash in place of what stands between
two of them. A dash is due if something else has been met since the last letter or digit, and is
written only if there was one.
-/
def groupKeyFrom (begun due : Bool) : List Char → List Char
  | [] => []
  | c :: rest =>
      if isLabelEnd c then
        (if due && begun then ['-'] else []) ++ c :: groupKeyFrom true false rest
      else
        groupKeyFrom begun true rest

/-- The key of a group: the runs of ASCII letters and digits in the lower case of a text, joined
by dashes.
-/
def groupKey (text : List Char) : List Char := groupKeyFrom false false (text.flatMap Text.lower)

/-- Whether a word begins at an upper case letter, by the characters around it: after a lower case
letter or a digit, and at the last capital of several before a lower case letter.
-/
def beginsWord (before : Char) (after? : Option Char) : Bool :=
  Text.isLower before || before.isDigit || (Text.isUpper before && after?.any Text.isLower)

/-- The rest of a text in lower case, with a dash before every word that begins in it. -/
def kebabFrom (before? : Option Char) : List Char → List Char
  | [] => []
  | c :: rest =>
      let dash := Text.isUpper c && before?.any (beginsWord · rest.head?)
      (if dash then ['-'] else []) ++ Text.lower c ++ kebabFrom (some c) rest

/-- A text in lower case with dashes between its words. -/
def kebab (text : List Char) : List Char := kebabFrom none text

/-- The plural of a name. -/
def plural (singular : List Char) : List Char :=
  if singular.getLast? = some 's' then singular ++ ['e', 's'] else singular ++ ['s']

/-- The major version that the text of a package version begins with, if it is above zero and fits
into 64 bits. A letter v may stand before it.
-/
def majorVersion? (version : List Char) : Option Nat :=
  let unmarked :=
    match version with
    | 'v' :: rest => rest
    | 'V' :: rest => rest
    | text => text
  (Text.numberOf? 10 (unmarked.takeWhile Char.isDigit)).filter fun major =>
    0 < major && major < Nat.pow 2 64

end ComponentCrd.Naming
