import ComponentCrd.Json.Value
import ComponentCrd.Text.Basic

/-! A reader of YAML 1.2 scalars on one line: plain ones, which the core schema resolves,
double-quoted ones, and the two empty collections. It reads texts, and knows nothing of a writer.
Whatever else may stand there (tabs, comments, tags, anchors, other flow collections, block
scalars, infinities) is not read at all, so that nothing is read otherwise than by the rules.
-/

namespace ComponentCrd.Yaml.Reader

-----------------------------------------------------------------------------------------
-- Double-quoted scalars
-----------------------------------------------------------------------------------------

/-- The characters that may stand in a line: the printable ones apart from tabs, line breaks and
the byte order mark.
-/
def isTextChar (c : Char) : Bool :=
  let code := c.toNat
  (0x20 ≤ code && code ≤ 0x7E) || code == 0x85 || (0xA0 ≤ code && code ≤ 0xD7FF)
    || (0xE000 ≤ code && code ≤ 0xFFFD && code != 0xFEFF) || 0x10000 ≤ code

/-- The escapes of a backslash and one letter, and the characters they stand for. -/
def escapes : List (Char × Char) := [
  ('0', '\x00'), ('a', '\x07'), ('b', '\x08'), ('t', '\t'), ('n', '\n'), ('v', '\x0b'),
  ('f', '\x0c'), ('r', '\r'), ('e', '\x1b'), (' ', ' '), ('"', '"'), ('/', '/'), ('\\', '\\'),
  ('N', '\x85'), ('_', '\xa0'), ('L', '\u2028'), ('P', '\u2029')]

/-- The letters that announce a code, and how many hexadecimal digits it has. -/
def codeLengths : List (Char × Nat) := [('x', 2), ('u', 4), ('U', 8)]

/-- The character of a hexadecimal code. -/
def ofCode? (digits : List Char) : Option Char := do
  let code ← Text.numberOf? 16 digits
  if code.isValidChar then some (Char.ofNat code) else none

/-- The character that is escaped behind a backslash, and what follows. -/
def unescape? : List Char → Option (Char × List Char)
  | [] => none
  | letter :: rest =>
      match codeLengths.lookup letter with
      | some length =>
          if rest.length < length then none
          else (ofCode? (rest.take length)).map fun c => (c, rest.drop length)
      | none => (escapes.lookup letter).map fun c => (c, rest)

/-- An escape takes up some of the text. -/
theorem unescape?_length {text rest : List Char} {c : Char}
    (read : unescape? text = some (c, rest))
    : rest.length < text.length := by
  cases text with
  | nil => cases read
  | cons letter others =>
      have bound : rest.length ≤ others.length := by
        simp only [unescape?] at read
        split at read
        · split at read
          · cases read
          · obtain ⟨_, _, same⟩ := Option.map_eq_some_iff.mp read
            obtain ⟨_, rfl⟩ := Prod.mk.inj same
            rw [List.length_drop]
            omega
        · obtain ⟨_, _, same⟩ := Option.map_eq_some_iff.mp read
          obtain ⟨_, rfl⟩ := Prod.mk.inj same
          exact Nat.le_refl _
      rw [List.length_cons]
      omega

/-- The text between an opening quote, which is read already, and the closing one, and what
follows.
-/
def quoted? (text : List Char) : Option (List Char × List Char) :=
  match text with
  | [] => none
  | c :: rest =>
      if c = '"' then
        some ([], rest)
      else if c = '\\' then
        match h : unescape? rest with
        | some (c, after) =>
            have := unescape?_length h
            (quoted? after).map fun (others, follows) => (c :: others, follows)
        | none => none
      else if isTextChar c then
        (quoted? rest).map fun (others, follows) => (c :: others, follows)
      else
        none
termination_by text.length

-----------------------------------------------------------------------------------------
-- Plain scalars
-----------------------------------------------------------------------------------------

/-- The characters that no plain scalar begins with, unless one of the first three does and a
character other than a blank follows.
-/
def indicators : List Char :=
  ['-', '?', ':', ',', '[', ']', '\x7b', '\x7d', '#', '&', '*', '!', '|', '>', '\x27', '"', '%',
    '@', '\x60']

/-- Whether a plain scalar may begin like the text. -/
def beginsPlain : List Char → Bool
  | [] => false
  | first :: rest =>
      first != ' '
        && (!indicators.contains first
          || (first == '-' || first == '?' || first == ':') && rest.head?.any (· != ' '))

/-- Whether a plain scalar may go on like the text: no colon before a blank or at the end, no
number sign after a blank, and no blank at the end.
-/
def goesOnPlain : List Char → Bool
  | [] => true
  | [c] => c != ':' && c != ' '
  | c :: d :: rest => !(c == ':' && d == ' ') && !(c == ' ' && d == '#') && goesOnPlain (d :: rest)

/-- Whether the whole text is a plain scalar. -/
def isPlainScalar (text : List Char) : Bool :=
  beginsPlain text && goesOnPlain text && text.all isTextChar

/-- The plain scalars that stand for a null or a truth value. -/
def words : List (String × Json) := [
  ("null", .null), ("Null", .null), ("NULL", .null), ("~", .null),
  ("true", .bool true), ("True", .bool true), ("TRUE", .bool true),
  ("false", .bool false), ("False", .bool false), ("FALSE", .bool false)]

/-- The text without a sign in front. -/
def unsigned : List Char → List Char
  | '-' :: rest => rest
  | '+' :: rest => rest
  | text => text

/-- The number that digits of a base stand for, of which there is at least one. -/
def natural? (base : Nat) (digits : List Char) : Option Nat :=
  if digits.isEmpty then none else Text.numberOf? base digits

/-- The integer that a plain scalar stands for: signed decimal digits, or unsigned digits of
another base.
-/
def integer? : List Char → Option Int
  | '0' :: 'o' :: digits => (natural? 8 digits).map fun n : Nat => (n : Int)
  | '0' :: 'x' :: digits => (natural? 16 digits).map fun n : Nat => (n : Int)
  | '-' :: digits => (natural? 10 digits).map fun n : Nat => -(n : Int)
  | '+' :: digits => (natural? 10 digits).map fun n : Nat => (n : Int)
  | digits => (natural? 10 digits).map fun n : Nat => (n : Int)

/-- Whether a text is an exponent, or nothing. -/
def isExponent : List Char → Bool
  | [] => true
  | mark :: rest =>
      (mark == 'e' || mark == 'E') && !(unsigned rest).isEmpty && (unsigned rest).all Char.isDigit

/-- Whether a text is what may follow the digits before the point: a point and digits, of which
there is at least one if there were none before it, and an exponent.
-/
def isFraction (hasWhole : Bool) : List Char → Bool
  | '.' :: rest =>
      (hasWhole || rest.head?.any Char.isDigit) && isExponent (rest.dropWhile Char.isDigit)
  | rest => hasWhole && isExponent rest

/-- Whether a plain scalar stands for a floating-point number. -/
def isFloat (text : List Char) : Bool :=
  let digits := (unsigned text).takeWhile Char.isDigit
  isFraction (!digits.isEmpty) ((unsigned text).dropWhile Char.isDigit)

/-- The plain scalars that stand for an infinity, a sign apart. -/
def infinities : List String := [".inf", ".Inf", ".INF"]

/-- The plain scalars that stand for no number. -/
def notNumbers : List String := [".nan", ".NaN", ".NAN"]

/-- Whether a plain scalar stands for an infinity or for no number. -/
def isSpecialFloat (text : List Char) : Bool :=
  infinities.contains (String.ofList (unsigned text)) || notNumbers.contains (String.ofList text)

/-- The value of a plain scalar in the core schema, with a given reader of decimal numbers. -/
def resolve? (float? : List Char → Option Binary64) (text : List Char) : Option Json :=
  match words.lookup (String.ofList text) with
  | some value => some value
  | none =>
      if isSpecialFloat text then none
      else
        match integer? text with
        | some value => some (.number (.integer value))
        | none =>
            if isFloat text then (float? text).map fun value => .number (.float value)
            else some (.string (String.ofList text))

/-- The value of a text that is a plain scalar. -/
def plain? (float? : List Char → Option Binary64) (text : List Char) : Option Json :=
  if isPlainScalar text then resolve? float? text else none

-----------------------------------------------------------------------------------------
-- Values and keys
-----------------------------------------------------------------------------------------

/-- The value of a text that is a scalar or an empty collection. -/
def value? (float? : List Char → Option Binary64) (text : List Char) : Option Json :=
  match text with
  | '"' :: rest =>
      match quoted? rest with
      | some (found, []) => some (.string (String.ofList found))
      | _ => none
  | ['\x7b', '\x7d'] => some (.object [])
  | ['[', ']'] => some (.array [])
  | text => plain? float? text

/-- Whether a text is separated from what precedes it: it is empty or begins with a blank. -/
def isSeparated (text : List Char) : Bool := text.head?.all (· == ' ')

/-- The text before the first colon that is followed by a blank or by nothing, and what follows
it.
-/
def colon? : List Char → Option (List Char × List Char)
  | [] => none
  | c :: rest =>
      if c = ':' && isSeparated rest then some ([], rest)
      else (colon? rest).map fun (before, after) => (c :: before, after)

/-- The key that a line of a mapping begins with, and what follows its colon. Only keys that are
strings are read.
-/
def key? (float? : List Char → Option Binary64) (text : List Char) :
    Option (String × List Char) :=
  match text with
  | '"' :: rest =>
      match quoted? rest with
      | some (found, ':' :: after) =>
          if isSeparated after then some (String.ofList found, after) else none
      | _ => none
  | text =>
      match colon? text with
      | some (before, after) =>
          match plain? float? before with
          | some (.string key) => some (key, after)
          | _ => none
      | none => none

end ComponentCrd.Yaml.Reader
