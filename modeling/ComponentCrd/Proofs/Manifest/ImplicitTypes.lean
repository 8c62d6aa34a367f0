import ComponentCrd.Proofs.Manifest.StringScalars
import Mathlib.Computability.RegularExpressions

/-! The types that a reader may give to a plain scalar by its text alone: those of the YAML 1.1 type
repository and those of the YAML 1.2 core schema, each by its regular expression. No string that is
written plain has one of them, and none holds anything that would end or change a plain scalar.
-/

namespace ComponentCrd.Yaml

-----------------------------------------------------------------------------------------
-- Patterns
-----------------------------------------------------------------------------------------

/-- A regular expression over characters. -/
abbrev Pattern := RegularExpression Char

namespace Pattern

/-- One of several patterns. -/
def either (patterns : List Pattern) : Pattern := patterns.foldr (· + ·) 0

/-- One of the characters. -/
def oneOf (chars : String) : Pattern := either (chars.toList.map .char)

/-- The text itself. -/
def literal (text : String) : Pattern := (text.toList.map .char).foldr (· * ·) 1

/-- One of the texts. -/
def oneOfTexts (texts : List String) : Pattern := either (texts.map literal)

/-- The pattern or nothing. -/
def optional (pattern : Pattern) : Pattern := 1 + pattern

/-- The pattern once or several times. -/
def repeated (pattern : Pattern) : Pattern := pattern * pattern.star

/-- The characters that the texts of a pattern can begin with. -/
def heads : Pattern → List Char
  | .zero => []
  | .epsilon => []
  | .char c => [c]
  | .plus first second => heads first ++ heads second
  | .comp first second =>
      if first.matchEpsilon then heads first ++ heads second else heads first
  | .star pattern => heads pattern

/-- What matches a pattern begins with one of its heads, by induction on the pattern. -/
theorem mem_heads {pattern : Pattern} {c : Char} {rest : List Char}
    (matched : c :: rest ∈ pattern.matches')
    : c ∈ pattern.heads := by
  induction pattern generalizing rest with
  | zero => exact matched.elim
  | epsilon => cases matched
  | char other =>
      obtain ⟨rfl, rfl⟩ := List.cons.inj matched
      exact .head _
  | plus first second ihFirst ihSecond =>
      rcases matched with own | own
      · exact List.mem_append_left _ (ihFirst own)
      · exact List.mem_append_right _ (ihSecond own)
  | comp first second ihFirst ihSecond =>
      obtain ⟨before, own, after, others, same⟩ := Language.mem_mul.mp matched
      cases before with
      | nil =>
          have empty : first.matchEpsilon := (first.rmatch_iff_matches' []).mpr own
          rw [List.nil_append] at same
          subst same
          rw [heads, if_pos empty]
          exact List.mem_append_right _ (ihSecond others)
      | cons other more =>
          obtain ⟨rfl, _⟩ := List.cons.inj same
          have head := ihFirst own
          rw [heads]
          split
          · exact List.mem_append_left _ head
          · exact head
  | star pattern ih =>
      obtain ⟨parts, same, each⟩ := Language.mem_kstar_iff_exists_nonempty.mp matched
      cases parts with
      | nil => cases same
      | cons part others =>
          obtain ⟨own, nonempty⟩ := each part (.head _)
          obtain ⟨other, more, rfl⟩ := List.exists_cons_of_ne_nil nonempty
          obtain ⟨rfl, _⟩ := List.cons.inj same
          exact ih own

theorem mem_either {patterns : List Pattern} {text : List Char}
    : text ∈ (either patterns).matches' ↔ ∃ pattern ∈ patterns, text ∈ pattern.matches' := by
  induction patterns with
  | nil => simp [either]
  | cons pattern rest ih =>
      rw [List.exists_mem_cons_iff, ← ih]
      exact Language.mem_add _ _ text

/-- Only the text itself matches a literal, by induction on it. -/
theorem mem_literal {word : String} {text : List Char}
    : text ∈ (literal word).matches' ↔ text = word.toList := by
  have each (chars : List Char)
      : text ∈ ((chars.map RegularExpression.char).foldr (· * ·) 1).matches' ↔ text = chars := by
    induction chars generalizing text with
    | nil => exact Language.mem_one text
    | cons c rest ih =>
        simp only [List.map_cons, List.foldr_cons, RegularExpression.matches'_mul,
          RegularExpression.matches'_char, Language.mem_mul, ih]
        constructor
        · rintro ⟨_, rfl, _, rfl, rfl⟩
          rfl
        · rintro rfl
          exact ⟨[c], rfl, rest, rfl, rfl⟩
  exact each word.toList

theorem mem_oneOfTexts {texts : List String} {text : List Char}
    : text ∈ (oneOfTexts texts).matches' ↔ ∃ word ∈ texts, text = word.toList := by
  simp [oneOfTexts, mem_either, mem_literal]

end Pattern

-----------------------------------------------------------------------------------------
-- The type repository of YAML 1.1
-----------------------------------------------------------------------------------------

open Pattern

/-- A sign, or none. -/
def sign : Pattern := optional (oneOf "-+")

/-- A decimal digit. -/
def digit : Pattern := oneOf "0123456789"

/-- Decimal digits with underscores between or behind them, the first of which is given. -/
def grouped (first : Pattern) : Pattern := first * (oneOf "0123456789_").star

/-- The places of a sexagesimal number below the highest one. -/
def sixtieths : Pattern := repeated (literal ":" * optional (oneOf "012345") * digit)

/-- Integers in the bases two, eight, ten, sixteen and sixty. -/
def olderIntegers : Pattern := either [
  sign * literal "0b" * repeated (oneOf "01_"),
  sign * literal "0" * repeated (oneOf "01234567_"),
  sign * (literal "0" + grouped (oneOf "123456789")),
  sign * literal "0x" * repeated (oneOf "0123456789abcdefABCDEF_"),
  sign * grouped (oneOf "123456789") * sixtieths]

/-- Floating-point numbers in the bases ten and sixty, infinities, and what is no number. -/
def olderFloats : Pattern := either [
  sign * optional (grouped digit) * literal "." * (oneOf "0123456789.").star
    * optional (oneOf "eE" * oneOf "-+" * repeated digit),
  sign * grouped digit * sixtieths * literal "." * (oneOf "0123456789_").star,
  sign * literal "." * oneOfTexts ["inf", "Inf", "INF"],
  literal "." * oneOfTexts ["nan", "NaN", "NAN"]]

/-- One digit or two. -/
def oneOrTwoDigits : Pattern := digit * optional digit

/-- Two digits. -/
def twoDigits : Pattern := digit * digit

/-- Four digits. -/
def fourDigits : Pattern := digit * digit * digit * digit

/-- Dates, alone or with a time of day, a fraction of a second and a time zone. -/
def timestamps : Pattern := either [
  fourDigits * literal "-" * twoDigits * literal "-" * twoDigits,
  fourDigits * literal "-" * oneOrTwoDigits * literal "-" * oneOrTwoDigits
    * (oneOf "Tt" + repeated (oneOf " \t")) * oneOrTwoDigits
    * literal ":" * twoDigits * literal ":" * twoDigits
    * optional (literal "." * digit.star)
    * optional ((oneOf " \t").star * literal "Z"
        + oneOf "-+" * oneOrTwoDigits * optional (literal ":" * twoDigits))]

/-- The types of the type repository that need no tag. -/
inductive OlderType where
  | null
  | bool
  | int
  | float
  | timestamp
  | merge
  | value
deriving DecidableEq, Repr

/-- The plain scalars that have a type without a tag. -/
def OlderType.pattern : OlderType → Pattern
  | .null => oneOfTexts ["~", "null", "Null", "NULL", ""]
  | .bool => oneOfTexts [
      "y", "Y", "yes", "Yes", "YES", "n", "N", "no", "No", "NO", "true", "True", "TRUE",
      "false", "False", "FALSE", "on", "On", "ON", "off", "Off", "OFF"]
  | .int => olderIntegers
  | .float => olderFloats
  | .timestamp => timestamps
  | .merge => literal "<<"
  | .value => literal "="

/-- A time with a zone. -/
example : timestamps.rmatch "2001-12-14 21:59:43.10 Z".toList := by decide +kernel

-----------------------------------------------------------------------------------------
-- The core schema of YAML 1.2
-----------------------------------------------------------------------------------------

/-- The types of the core schema that need no tag, apart from that of strings. -/
inductive CoreType where
  | null
  | bool
  | int
  | float
deriving DecidableEq, Repr

/-- The plain scalars that have a type without a tag. -/
def CoreType.pattern : CoreType → Pattern
  | .null => oneOfTexts ["null", "Null", "NULL", "~", ""]
  | .bool => oneOfTexts ["true", "True", "TRUE", "false", "False", "FALSE"]
  | .int => either [
      sign * repeated digit,
      literal "0o" * repeated (oneOf "01234567"),
      literal "0x" * repeated (oneOf "0123456789abcdefABCDEF")]
  | .float => either [
      sign * (literal "." * repeated digit + repeated digit * optional (literal "." * digit.star))
        * optional (oneOf "eE" * sign * repeated digit),
      sign * oneOfTexts [".inf", ".Inf", ".INF"],
      oneOfTexts [".nan", ".NaN", ".NAN"]]

-----------------------------------------------------------------------------------------
-- Plain strings
-----------------------------------------------------------------------------------------

variable {text : List Char}

/-- A plain string matches no pattern whose texts begin with something other than a letter. -/
theorem not_matches_of_heads {pattern : Pattern}
    (heads : pattern.heads.all fun c => !c.isAlpha) (plain : isPlain text)
    : text ∉ pattern.matches' := by
  intro matched
  obtain ⟨first, rest, rfl, alpha⟩ := Reader.isPlain_begins plain
  simpa [alpha] using List.all_eq_true.mp heads first (mem_heads matched)

/-- A plain string is none of some texts that cannot be written plain. -/
theorem not_matches_of_texts {texts : List String}
    (none : ∀ word ∈ texts, isPlain word.toList = false) (plain : isPlain text)
    : text ∉ (oneOfTexts texts).matches' := by
  intro matched
  obtain ⟨word, member, rfl⟩ := mem_oneOfTexts.mp matched
  exact nomatch (none word member).symm.trans plain

/-- A plain string has no type of the type repository: the words of such a type are reserved or
begin with a mark, as everything else in it does.
-/
theorem not_matches_olderType (type : OlderType) (plain : isPlain text)
    : text ∉ type.pattern.matches' := by
  cases type with
  | null | bool => exact not_matches_of_texts (by decide) plain
  | int | float | timestamp | merge | value => exact not_matches_of_heads (by decide) plain

/-- A plain string has no type of the core schema. -/
theorem not_matches_coreType (type : CoreType) (plain : isPlain text)
    : text ∉ type.pattern.matches' := by
  cases type with
  | null | bool => exact not_matches_of_texts (by decide) plain
  | int | float => exact not_matches_of_heads (by decide) plain

/-- A text that no reader takes for anything but a string, as a key and as a value of a block
collection: it has no type of its own, it begins like no other node, and nothing in it ends it,
neither a colon or a number sign nor a mark of flow collections, a blank or a line end.
-/
structure OnlyString (text : List Char) : Prop where
  noOlderType : ∀ type : OlderType, text ∉ type.pattern.matches'
  noCoreType : ∀ type : CoreType, text ∉ type.pattern.matches'
  begins : ∃ first rest, text = first :: rest ∧ first ∉ Reader.indicators
  noMark : ∀ c ∈ text, c ∉ [':', '#', ',', '[', ']', '\x7b', '\x7d']
  noBlank : ∀ c ∈ text, c ∉ [' ', '\t', '\n', '\r', '\x85', '\u2028', '\u2029']
  noMarker : ¬ ['-', '-', '-'] <+: text ∧ ¬ ['.', '.', '.'] <+: text
  value : ∀ float?, Reader.StandsFor float? text (.string (String.ofList text))
  key : ∀ float?, Reader.Names float? text (String.ofList text)

/-- What begins with a letter begins with no other character. -/
theorem not_prefix_of_alpha {first other : Char} {rest others : List Char} (alpha : first.isAlpha)
    (mark : other.isAlpha = false)
    : ¬ other :: others <+: first :: rest := by
  intro before
  obtain ⟨rfl, _⟩ := List.cons_prefix_cons.mp before
  exact nomatch mark.symm.trans alpha

/-- Every plain string is read as a string and as nothing else. -/
theorem onlyString_of_isPlain (plain : isPlain text) : OnlyString text where
  noOlderType type := not_matches_olderType type plain
  noCoreType type := not_matches_coreType type plain
  begins := by
    obtain ⟨first, rest, same, alpha⟩ := Reader.isPlain_begins plain
    exact ⟨first, rest, same, Reader.not_mem_of_isAlpha alpha (by decide)⟩
  noMark _ := Reader.not_mem_of_isPlain plain (by decide)
  noBlank _ := Reader.not_mem_of_isPlain plain (by decide)
  noMarker := by
    obtain ⟨first, rest, rfl, alpha⟩ := Reader.isPlain_begins plain
    exact ⟨not_prefix_of_alpha alpha (by decide), not_prefix_of_alpha alpha (by decide)⟩
  value float? := Reader.standsFor_plain float? plain
  key float? := Reader.names_plain float? plain

/-- A name with marks in it that begins like a word of the older version. -/
theorem versionedName_onlyString
    : isPlain "no-op.k8s.io/v1".toList ∧ OnlyString "no-op.k8s.io/v1".toList :=
  ⟨by decide, onlyString_of_isPlain (by decide)⟩

end ComponentCrd.Yaml
