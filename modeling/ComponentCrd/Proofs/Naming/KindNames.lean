import ComponentCrd.Proofs.Naming.DashedNames

/-! Names from kinds. A kind with dashes between its words is a letter and then a name with single
dashes, whatever capitals and digits it has. So only its length can keep it from being a label, and
only for its length, or that of the plural, a default takes its place.
-/

namespace ComponentCrd

namespace Naming

variable {c : Char} {kind rest name : List Char} {before? : Option Char}

-----------------------------------------------------------------------------------------
-- Letters and digits in lower case
-----------------------------------------------------------------------------------------

theorem lower_of_isAlphanum (letter : c.isAlphanum) : Text.lower c = [c.toLower] := by
  have ascii : c.toNat < 0x7F := (Yaml.Reader.isAscii_of_isAlphanum letter).1.2
  rw [Text.lower, if_pos (by omega)]

/-- The lower case of a letter or a digit may stand at the end of a label. -/
theorem isLabelEnd_toLower (letter : c.isAlphanum) : isLabelEnd c.toLower := by
  rcases (Bool.or_eq_true _ _).mp letter with alpha | digit
  · rw [isLabelEnd, isLower_toLower alpha, Bool.true_or]
  · have own : isLabelEnd c := (Bool.or_eq_true _ _).mpr (.inr digit)
    have upper := isUpper_of_inner (inner_of_isLabelEnd own)
    rw [toLower_of_not_isUpper upper]
    exact own

/-- No word begins at what a label may hold. -/
theorem textIsUpper_of_inner (inner : isLabelInner c) : Text.isUpper c = false := by
  have ascii : c.toNat < 0x7F := (ascii_of_inner inner).1.2
  rw [Text.isUpper, if_pos (by omega), isUpper_of_inner inner]

-----------------------------------------------------------------------------------------
-- Dashes between words
-----------------------------------------------------------------------------------------

/-- A letter or a digit is written in lower case, and a dash before it if a word begins there. -/
theorem kebabFrom_cons (letter : c.isAlphanum)
    : kebabFrom before? (c :: rest)
      = (if Text.isUpper c && before?.any (beginsWord · rest.head?) then ['-'] else [])
        ++ c.toLower :: kebabFrom (some c) rest := by
  rw [kebabFrom, lower_of_isAlphanum letter, List.append_assoc]
  rfl

/-- Without the dashes the letters and digits are left, in lower case. -/
theorem filter_kebabFrom (letters : ∀ c ∈ kind, c.isAlphanum)
    : (kebabFrom before? kind).filter (· ≠ '-') = kind.map Char.toLower := by
  induction kind generalizing before? with
  | nil => rfl
  | cons c rest ih =>
      obtain ⟨letter, letters⟩ := List.forall_mem_cons.mp letters
      have apart := ne_dash_of_isLabelEnd (isLabelEnd_toLower letter)
      have dash (begins : Bool) : (if begins then ['-'] else []).filter (· ≠ '-') = [] := by
        cases begins <;> rfl
      rw [kebabFrom_cons letter, List.filter_append, dash, List.nil_append,
        List.filter_cons_of_pos (by simpa using apart), ih letters, List.map_cons]

/-- Every dash stands before a letter or a digit, by induction over the kind. -/
theorem dashed_kebabFrom (letters : ∀ c ∈ kind, c.isAlphanum)
    : Dashed (kebabFrom before? kind) := by
  induction kind generalizing before? with
  | nil => exact .nil
  | cons c rest ih =>
      obtain ⟨letter, letters⟩ := List.forall_mem_cons.mp letters
      have own := isLabelEnd_toLower letter
      rw [kebabFrom_cons letter]
      split
      · exact .dash own (ih letters)
      · exact .plain own (ih letters)

/-- What a label may hold is left as it is: no word begins in it, and it is its own lower case. -/
theorem kebabFrom_of_inner (inner : ∀ c ∈ name, isLabelInner c)
    : kebabFrom before? name = name := by
  induction name generalizing before? with
  | nil => rfl
  | cons c rest ih =>
      obtain ⟨own, inner⟩ := List.forall_mem_cons.mp inner
      rw [kebabFrom, textIsUpper_of_inner own, lower_of_inner own, ih inner]
      rfl

-----------------------------------------------------------------------------------------
-- Kinds
-----------------------------------------------------------------------------------------

/-- What the name of a kind is: its letters and digits in lower case, with single dashes between
them. It begins with a letter and does not end with a dash, is less than twice as long as the kind,
is its own name, and is a label exactly if it is not too long for one.
-/
structure KebabOf (kind name : List Char) : Prop where
  letters : name.filter (· ≠ '-') = kind.map Char.toLower
  starts : ∃ c, name.head? = some c ∧ c.isAlpha
  ends : name.getLast? ≠ some '-'
  separated : ¬ ['-', '-'] <:+: name
  short
    : (Text.toUtf8 (String.ofList name)).length
      ≤ 2 * (Text.toUtf8 (String.ofList kind)).length - 1
  again : kebab name = name
  label : isLabel name ↔ (Text.toUtf8 (String.ofList name)).length ≤ 63

/-- A kind is a letter and then letters and digits. -/
theorem isKind_cons (valid : isKind kind)
    : ∃ c rest, kind = c :: rest ∧ c.isAlpha ∧ ∀ d ∈ rest, d.isAlphanum := by
  simp only [isKind, Bool.and_eq_true, List.all_eq_true] at valid
  obtain ⟨first, letters⟩ := valid
  cases kind with
  | nil => cases first
  | cons c rest => exact ⟨c, rest, rfl, first, (List.forall_mem_cons.mp letters).2⟩

/-- The name that is derived from a kind has these laws. -/
theorem kebabOf_kebab (valid : isKind kind) : KebabOf kind (kebab kind) := by
  obtain ⟨c, rest, rfl, first, letters⟩ := isKind_cons valid
  have letter : c.isAlphanum := (Bool.or_eq_true _ _).mpr (.inl first)
  have all : ∀ d ∈ c :: rest, d.isAlphanum := List.forall_mem_cons.mpr ⟨letter, letters⟩
  have kept : (kebab (c :: rest)).filter (· ≠ '-') = (c :: rest).map Char.toLower :=
    filter_kebabFrom all
  have own := isLabelEnd_toLower letter
  have dashed : Dashed (kebabFrom (some c) rest) := dashed_kebabFrom letters
  have name : kebab (c :: rest) = c.toLower :: kebabFrom (some c) rest := by
    rw [kebab, kebabFrom_cons letter]
    simp
  have whole : Dashed (kebab (c :: rest)) := dashed_kebabFrom all
  have bytes := length_toUtf8_of_inner whole.inner
  constructor
  case letters => exact kept
  case starts =>
    refine ⟨c.toLower, by rw [name]; rfl, ?_⟩
    exact (Bool.or_eq_true _ _).mpr (.inr (isLower_toLower first))
  case ends =>
    intro last
    exact ne_dash_of_isLabelEnd (whole.isLabelEnd_of_getLast? _ last) rfl
  case separated => exact whole.separated
  case short =>
    have ascii : ∀ d ∈ c :: rest, Yaml.Reader.IsAscii d := fun d member =>
      (Yaml.Reader.isAscii_of_isAlphanum (all d member)).1
    -- The first letter has no dash in front of it; behind it there are at most as many as letters.
    have count : (kebabFrom (some c) rest).filter (· ≠ '-') = rest.map Char.toLower :=
      filter_kebabFrom letters
    have behind := dashed.length_le
    rw [count, List.length_map] at behind
    rw [bytes, length_toUtf8_of_isAscii ascii, name]
    simp only [List.length_cons]
    omega
  case again => exact kebabFrom_of_inner whole.inner
  case label =>
    have form : hasLabelForm (kebab (c :: rest)) := name ▸ dashed.hasLabelForm own
    rw [bytes, isLabel_iff_of_form form, longestLabel]

-----------------------------------------------------------------------------------------
-- Plurals
-----------------------------------------------------------------------------------------

/-- Letters and digits behind a name that has the form of a label do not change that. -/
theorem hasLabelForm_append {ending : List Char} (form : hasLabelForm name) (nonempty : ending ≠ [])
    (letters : ∀ c ∈ ending, isLabelEnd c)
    : hasLabelForm (name ++ ending) := by
  have last := letters _ (List.getLast_mem nonempty)
  have inner := inner_of_hasLabelForm form
  simp only [hasLabelForm, Bool.and_eq_true, List.all_eq_true] at form ⊢
  obtain ⟨⟨_, first⟩, _⟩ := form
  refine ⟨⟨?_, ?_⟩, ?_⟩
  · rintro c member
    rcases List.mem_append.mp member with before | behind
    · exact inner c before
    · exact inner_of_isLabelEnd (letters c behind)
  · cases name with
    | nil => cases first
    | cons c rest => exact first
  · rw [List.getLast?_append, List.getLast?_eq_some_getLast nonempty]
    exact last

theorem hasLabelForm_plural (form : hasLabelForm name) : hasLabelForm (plural name) := by
  unfold plural
  split
  · exact hasLabelForm_append form (by simp) (by simp; decide)
  · exact hasLabelForm_append form (by simp) (by simp; decide)

end Naming

-----------------------------------------------------------------------------------------
-- Derived names
-----------------------------------------------------------------------------------------

namespace Identity

variable {field : IdentityField} {derived : String}

theorem admitted_of_not_admits (refused : ¬ field.admits derived)
    : admitted field derived = default.get field :=
  if_neg refused

/-- A derived value stands exactly if its rule admits it, since the rule admits the default. -/
theorem admitted_eq_iff : admitted field derived = derived ↔ field.admits derived := by
  constructor
  · intro same
    exact same ▸ admits_admitted field derived
  · exact fun admits => if_pos admits

/-- The plural of a name: with `es` if it ends with an s, and with `s` otherwise. -/
def inPlural (singular : String) : String :=
  singular ++ if singular.toList.getLast? = some 's' then "es" else "s"

theorem inPlural_eq (singular : String)
    : inPlural singular = String.ofList (Naming.plural singular.toList) := by
  unfold inPlural Naming.plural
  split <;> rw [String.ofList_append, String.ofList_toList]

/-- The names that an identity has for a kind: each follows from the one before it unless it takes
more bytes than a label may, and is the default then.
-/
structure NamesKind (kind : List Char) (identity : Identity) : Prop where
  kept : identity.kind = String.ofList kind
  singular
    : identity.singular = String.ofList (Naming.kebab kind)
      ↔ (Text.toUtf8 (String.ofList (Naming.kebab kind))).length ≤ 63
  defaultSingular
    : 63 < (Text.toUtf8 (String.ofList (Naming.kebab kind))).length
      → identity.singular = default.singular
  plural
    : identity.plural = inPlural identity.singular
      ↔ (Text.toUtf8 (inPlural identity.singular)).length ≤ 63
  defaultPlural
    : 63 < (Text.toUtf8 (inPlural identity.singular)).length
      → identity.plural = default.plural

/-- The names of a token whose third part is a kind: the kind itself, and what is made of it and of
the singular where the rules admit that.
-/
theorem derive_of_isKind {kind : List Char} (valid : Naming.isKind kind) {token : String}
    (third : (Text.segments ':' token.toList)[2]? = some kind)
    (packageName packageVersion : String)
    : (derive packageName packageVersion token).kind = String.ofList kind
      ∧ (derive packageName packageVersion token).singular
        = admitted .singular (String.ofList (Naming.kebab kind))
      ∧ (derive packageName packageVersion token).plural
        = admitted .plural (inPlural (derive packageName packageVersion token).singular) := by
  have kept : kindOf token = String.ofList kind := by
    have admits : IdentityField.kind.admits (String.ofList kind) := by
      rw [IdentityField.admits, String.toList_ofList]
      exact valid
    simp only [kindOf, third, admitted_eq_iff.mpr admits]
  simp only [derive, kept, inPlural_eq, String.toList_ofList, and_self]

/-- The identity of a token whose third part is a kind has the names of that kind. -/
theorem namesKind_derive {kind : List Char} (valid : Naming.isKind kind) {token : String}
    (third : (Text.segments ':' token.toList)[2]? = some kind)
    (packageName packageVersion : String)
    : NamesKind kind (derive packageName packageVersion token) := by
  obtain ⟨kept, singular, plural⟩ := derive_of_isKind valid third packageName packageVersion
  generalize derive packageName packageVersion token = identity at kept singular plural
  have short : IdentityField.singular.admits (String.ofList (Naming.kebab kind))
      ↔ (Text.toUtf8 (String.ofList (Naming.kebab kind))).length ≤ 63 := by
    rw [IdentityField.admits, String.toList_ofList]
    · exact (Naming.kebabOf_kebab valid).label
    all_goals simp
  have shortPlural : IdentityField.plural.admits (inPlural identity.singular)
      ↔ (Text.toUtf8 (inPlural identity.singular)).length ≤ 63 := by
    have label : Naming.isLabel identity.singular.toList := by
      rw [singular]
      exact admits_admitted .singular _
    have form : Naming.hasLabelForm identity.singular.toList :=
      ((Bool.and_eq_true _ _).mp label).2
    have form := Naming.hasLabelForm_plural form
    rw [inPlural_eq, Naming.length_toUtf8_of_inner (Naming.inner_of_hasLabelForm form),
      IdentityField.admits, String.toList_ofList]
    · exact Naming.isLabel_iff_of_form form
    all_goals simp
  refine ⟨kept, ?_, fun long => ?_, ?_, fun long => ?_⟩
  · rw [singular, admitted_eq_iff, short]
  · rw [singular, admitted_of_not_admits (short.not.mpr (Nat.not_le.mpr long)), get]
  · rw [plural, admitted_eq_iff, shortPlural]
  · rw [plural, admitted_of_not_admits (shortPlural.not.mpr (Nat.not_le.mpr long)), get]

/-- The name of a kind has the form of a label, and so defaults take the place of derived names for
their length only.
-/
theorem namesKind_of_isKind {kind : List Char} (valid : Naming.isKind kind)
    : Naming.KebabOf kind (Naming.kebab kind)
      ∧ ∀ token : String, (Text.segments ':' token.toList)[2]? = some kind
          → ∀ packageName packageVersion,
              NamesKind kind (derive packageName packageVersion token) :=
  ⟨Naming.kebabOf_kebab valid, fun _ third => namesKind_derive valid third⟩

/-- A kind with a run of capitals and with digits. -/
theorem bucketKind_named
    : Naming.isKind "S3HTTPAddress".toList
      ∧ (Text.segments ':' "p:i:S3HTTPAddress".toList)[2]? = some "S3HTTPAddress".toList
      ∧ Naming.KebabOf "S3HTTPAddress".toList "s3-http-address".toList
      ∧ NamesKind "S3HTTPAddress".toList (derive "p" "2.0" "p:i:S3HTTPAddress") := by
  have valid : Naming.isKind "S3HTTPAddress".toList := by decide
  have third
      : (Text.segments ':' "p:i:S3HTTPAddress".toList)[2]? = some "S3HTTPAddress".toList := by
    decide
  obtain ⟨kebab, names⟩ := namesKind_of_isKind valid
  exact ⟨valid, third, kebab, names _ third _ _⟩

end Identity

end ComponentCrd
