import ComponentCrd.Naming.Identity
import Mathlib.Data.Nat.Digits.Defs

/-! Every derived identity keeps the rules of its fields, whatever the package and the token are
named. An identity is therefore refused for its overrides only: for the first one, in the order of
the fields, that breaks the rule of its field.
-/

namespace ComponentCrd

namespace Naming

-----------------------------------------------------------------------------------------
-- Labels
-----------------------------------------------------------------------------------------

/-- Letters in lower case and digits, not too many of them and at least one, are a label. -/
theorem isLabel_of_ends {name : List Char} (nonempty : name ≠ [])
    (short : name.length ≤ longestLabel) (ends : ∀ c ∈ name, isLabelEnd c)
    : isLabel name := by
  have inner : ∀ c ∈ name, isLabelInner c := fun c member => by simp [isLabelInner, ends c member]
  have first := ends _ (List.head_mem nonempty)
  have last := ends _ (List.getLast_mem nonempty)
  simp only [isLabel, hasLabelForm, Bool.and_eq_true, decide_eq_true_eq, List.all_eq_true]
  rw [List.head?_eq_some_head nonempty, List.getLast?_eq_some_getLast nonempty]
  exact ⟨short, ⟨inner, first⟩, last⟩

/-- A major version is below the bound of 64 bits. -/
theorem majorVersion?_lt {version : List Char} {major : Nat}
    (found : majorVersion? version = some major)
    : major < Nat.pow 2 64 := by
  have bounds := (Option.mem_filter_iff.mp (show major ∈ majorVersion? version from found)).2
  simp only [Bool.and_eq_true, decide_eq_true_eq] at bounds
  exact bounds.2

/-- A letter v before a number of 64 bits is a label. -/
theorem isLabel_version {major : Nat} (bounded : major < Nat.pow 2 64)
    : isLabel ("v" ++ toString major).toList := by
  have text : ("v" ++ toString major).toList = 'v' :: Nat.toDigits 10 major := by
    rw [String.toList_append, Nat.toString_eq_repr, Nat.toList_repr]
    rfl
  have few : (Nat.toDigits 10 major).length ≤ 20 :=
    Nat.toDigits_length 10 major 20 (by decide) (Nat.lt_trans bounded (by decide))
  rw [text]
  refine isLabel_of_ends (List.cons_ne_nil _ _) ?_ fun c member => ?_
  · simp only [List.length_cons, longestLabel]
    omega
  · rcases List.mem_cons.mp member with rfl | digit
    · decide
    · simp [isLabelEnd, Nat.isDigit_of_mem_toDigits (by decide) (by decide) digit]

end Naming

namespace Identity

-----------------------------------------------------------------------------------------
-- Derived fields
-----------------------------------------------------------------------------------------

/-- Every default keeps the rule of its field. -/
theorem admits_default (field : IdentityField) : field.admits (default.get field) := by
  cases field <;> decide

/-- A derived value that may give way to the default keeps the rule of its field. -/
theorem admits_admitted (field : IdentityField) (derived : String)
    : field.admits (admitted field derived) := by
  unfold admitted
  split
  · next admits => exact admits
  · exact admits_default field

theorem toList_append_groupSuffix (key : List Char)
    : (String.ofList key ++ groupSuffix).toList = key ++ '.' :: "components.platform".toList := by
  rw [String.toList_append, String.toList_ofList]
  rfl

theorem admits_groupOf (packageName token : String)
    : IdentityField.group.admits (groupOf packageName token) := by
  have either (key : List Char)
      : IdentityField.group.admits
          (if key.isEmpty then default.group
            else admitted .group (String.ofList key ++ groupSuffix)) := by
    split
    · simpa only [get] using admits_default .group
    · exact admits_admitted .group _
  exact either _

/-- A version needs no default for its length: its digits are those of a number of 64 bits. -/
theorem admits_versionOf (packageVersion : String)
    : IdentityField.version.admits (versionOf packageVersion) := by
  unfold versionOf
  split
  · next major found => exact Naming.isLabel_version (Naming.majorVersion?_lt found)
  · simpa only [get] using admits_default .version

theorem admits_kindOf (token : String) : IdentityField.kind.admits (kindOf token) := by
  unfold kindOf
  split
  · exact admits_admitted .kind _
  · simpa only [get] using admits_default .kind

/-- Every field of a derived identity keeps its rule. -/
theorem admits_derive (packageName packageVersion token : String) (field : IdentityField)
    : field.admits ((derive packageName packageVersion token).get field) := by
  cases field with
  | group => simpa only [get, derive] using admits_groupOf packageName token
  | version => simpa only [get, derive] using admits_versionOf packageVersion
  | kind => simpa only [get, derive] using admits_kindOf token
  | plural => simpa only [get, derive] using admits_admitted .plural _
  | singular => simpa only [get, derive] using admits_admitted .singular _

-----------------------------------------------------------------------------------------
-- Validation and overrides
-----------------------------------------------------------------------------------------

/-- An identity is valid exactly if all its fields keep their rules. -/
theorem validate_eq_ok {identity : Identity}
    : identity.validate = .ok () ↔ ∀ field : IdentityField, field.admits (identity.get field) := by
  have every (field : IdentityField) : field ∈ IdentityField.all := by cases field <;> decide
  unfold validate
  split
  · next field found =>
      have broken := List.find?_some found
      simp only [reduceCtorEq, false_iff, not_forall]
      exact ⟨field, by simpa using broken⟩
  · next none =>
      simp only [true_iff]
      exact fun field => by simpa using List.find?_eq_none.mp none field (every field)

/-- The error names the first field that breaks its rule. -/
theorem validate_eq_error (identity : Identity) (field : IdentityField)
    : identity.validate = .error ⟨field⟩
      ↔ field.admits (identity.get field) = false
        ∧ ∃ before after,
            IdentityField.all = before ++ field :: after
            ∧ ∀ earlier : IdentityField,
                earlier ∈ before → earlier.admits (identity.get earlier) := by
  have first
      : IdentityField.all.find? (fun field => !field.admits (identity.get field)) = some field
        ↔ _ :=
    List.find?_eq_some_iff_append
  simp only [Bool.not_eq_true', Bool.not_not] at first
  rw [← first]
  unfold validate
  split
  · next other found => simp [found]
  · next none => simp [none]

/-- An overridden field has the value of its override. -/
theorem get_override (identity : Identity) (overrides : IdentityOverrides) (field : IdentityField)
    : (identity.override overrides).get field
      = (overrides.get? field).getD (identity.get field) := by
  cases field <;> rfl

end Identity

-----------------------------------------------------------------------------------------
-- The identity of a component
-----------------------------------------------------------------------------------------

namespace IdentityOverrides

/-- The override of the field is set and breaks the rule of the field. -/
def Breaks (overrides : IdentityOverrides) (field : IdentityField) : Prop :=
  ∃ value, overrides.get? field = some value ∧ field.admits value = false

/-- The field is the first in the order of the fields with an override that breaks its rule. -/
def FirstBreaks (overrides : IdentityOverrides) (field : IdentityField) : Prop :=
  overrides.Breaks field
  ∧ ∃ before after,
      IdentityField.all = before ++ field :: after ∧ ∀ earlier ∈ before, ¬ overrides.Breaks earlier

/-- On a valid identity a field breaks its rule exactly if its override does. -/
theorem breaks_iff {overrides : IdentityOverrides} {identity : Identity} {field : IdentityField}
    (valid : field.admits (identity.get field))
    : field.admits ((identity.override overrides).get field) = false ↔ overrides.Breaks field := by
  rw [Identity.get_override, Breaks]
  cases overrides.get? field with
  | none => simp [valid]
  | some value => simp

end IdentityOverrides

namespace Document

/-- The overrides alone decide over the identity of a component. It is refused exactly if one of
them breaks a rule, with the first field for which that is so, and otherwise has the overrides in
place of derived values.
-/
structure DecidedByOverrides (doc : Document) (token : String) (overrides : IdentityOverrides)
    : Prop where
  fails : (∃ error, doc.identify token overrides = .error error) ↔ ∃ field, overrides.Breaks field
  reports : ∀ field, doc.identify token overrides = .error ⟨field⟩ ↔ overrides.FirstBreaks field
  succeeds
    : ∀ identity, doc.identify token overrides = .ok identity
        → ∀ field,
            identity.get field
            = (overrides.get? field).getD
                ((Identity.derive doc.name doc.version token).get field)

variable {doc : Document} {token : String} {overrides : IdentityOverrides}

/-- The identity of a component is the overridden derived identity, if that is valid. -/
theorem identify_eq
    : doc.identify token overrides
      = ((Identity.derive doc.name doc.version token).override overrides).validate.map
          fun _ => (Identity.derive doc.name doc.version token).override overrides := by
  unfold identify
  dsimp only
  cases ((Identity.derive doc.name doc.version token).override overrides).validate <;> rfl

/-- A field of the overridden derived identity breaks its rule exactly if its override does. -/
theorem breaks_derived (doc : Document) (token : String) (overrides : IdentityOverrides)
    (field : IdentityField)
    : field.admits
          (((Identity.derive doc.name doc.version token).override overrides).get field) = false
      ↔ overrides.Breaks field :=
  IdentityOverrides.breaks_iff (Identity.admits_derive doc.name doc.version token field)

/-- The error of a component names the first field whose override breaks its rule. -/
theorem identify_eq_error {field : IdentityField}
    : doc.identify token overrides = .error ⟨field⟩ ↔ overrides.FirstBreaks field := by
  have breaks := breaks_derived doc token overrides
  have keeps (field : IdentityField) := not_congr (breaks field)
  simp only [Bool.not_eq_false] at keeps
  have first := Identity.validate_eq_error
    ((Identity.derive doc.name doc.version token).override overrides) field
  simp only [breaks, keeps] at first
  rw [IdentityOverrides.FirstBreaks, ← first, identify_eq]
  cases ((Identity.derive doc.name doc.version token).override overrides).validate <;>
    simp [Except.map]

/-- A component is identified exactly if no override breaks a rule, and then by the overridden
derived identity.
-/
theorem identify_eq_ok {identity : Identity}
    : doc.identify token overrides = .ok identity
      ↔ (∀ field, ¬ overrides.Breaks field)
        ∧ (Identity.derive doc.name doc.version token).override overrides = identity := by
  have keeps (field : IdentityField) := not_congr (breaks_derived doc token overrides field)
  simp only [Bool.not_eq_false] at keeps
  simp only [← keeps, ← Identity.validate_eq_ok, identify_eq]
  cases ((Identity.derive doc.name doc.version token).override overrides).validate <;>
    simp [Except.map]

/-- Derived identities are valid, and so overrides decide over the identity of every component. -/
theorem derived_valid_and_decidedByOverrides
    : (∀ packageName packageVersion token,
        (Identity.derive packageName packageVersion token).validate = .ok ())
      ∧ ∀ (doc : Document) (token : String) (overrides : IdentityOverrides),
          doc.DecidedByOverrides token overrides := by
  refine ⟨fun packageName packageVersion token => ?_, fun doc token overrides => ⟨?_, ?_, ?_⟩⟩
  · exact Identity.validate_eq_ok.mpr (Identity.admits_derive packageName packageVersion token)
  · constructor
    · rintro ⟨⟨field⟩, refused⟩
      exact ⟨field, (identify_eq_error.mp refused).1⟩
    · rintro ⟨field, broken⟩
      cases identified : doc.identify token overrides with
      | error error => exact ⟨error, rfl⟩
      | ok identity => exact ((identify_eq_ok.mp identified).1 field broken).elim
  · exact fun field => identify_eq_error
  · intro identity identified field
    obtain ⟨_, rfl⟩ := identify_eq_ok.mp identified
    exact Identity.get_override _ overrides field

end Document

end ComponentCrd
