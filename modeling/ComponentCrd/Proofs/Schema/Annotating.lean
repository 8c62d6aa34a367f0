import ComponentCrd.Proofs.Json.NumberValues
import ComponentCrd.Proofs.Outcomes
import ComponentCrd.Schema.Annotation

/-! Laws of annotations: which rejections they cause, and what holds of the values they allow. -/

namespace ComponentCrd

/-- The rejection is one that annotations cause. -/
def Rejection.concernsAnnotations : Rejection → Bool
  | .descriptionNotString | .enumNotList | .enumEntryWithoutValue | .enumEntryIsList
  | .enumMismatch _ _ => true
  | _ => false

-----------------------------------------------------------------------------------------
-- Values of a type
-----------------------------------------------------------------------------------------

/-- The values that an enumeration at a node of a type may list. Null is one for every type, an
integer may be a double, and a list or an object fits for being one, whatever it holds.
-/
inductive Json.Fits : Json → SchemaType → Prop
  | null (type : SchemaType) : Fits .null type
  | integer {value : Number} (whole : ∃ integer : Int, value.value = integer)
    : Fits (.number value) .integer
  | number (value : Number) : Fits (.number value) .number
  | string (value : String) : Fits (.string value) .string
  | boolean (value : Bool) : Fits (.bool value) .boolean
  | array (items : List Json) : Fits (.array items) .array
  | object (members : Entries Json) : Fits (.object members) .object

/-- A type admits exactly the values that fit it. -/
theorem SchemaType.admits_iff {type : SchemaType} {value : Json}
    : type.admits value ↔ value.Fits type := by
  constructor
  · intro admitted
    unfold admits at admitted
    split at admitted
    · exact .null _
    · exact .integer ⟨_, rfl⟩
    · exact .integer (Binary64.isWhole_iff.mp admitted)
    · exact .number _
    · exact .string _
    · exact .boolean _
    · exact .array _
    · exact .object _
    · cases admitted
  · intro fits
    cases fits with
    | null => cases type <;> rfl
    | @integer value whole =>
        cases value with
        | integer => rfl
        | float => exact Binary64.isWhole_iff.mpr whole
    | number value => cases value <;> rfl
    | string | boolean | array | object => rfl

theorem SchemaType.admits_eq_false_iff {type : SchemaType} {value : Json}
    : type.admits value = false ↔ ¬ value.Fits type := by
  rw [← admits_iff, Bool.not_eq_true]

/-- Every value that the annotations allow fits the type. -/
def Annotations.AdmittedBy (notes : Annotations) (type : SchemaType) : Prop :=
  ∀ values, notes.enum? = some values → ∀ value ∈ values, value.Fits type

-----------------------------------------------------------------------------------------
-- Annotations put onto others
-----------------------------------------------------------------------------------------

namespace Annotations

variable {cause : Rejection} {type : SchemaType}

theorem enumValue_error {entry : Json} (refused : enumValue entry = .error cause)
    : cause = .enumEntryWithoutValue ∨ cause = .enumEntryIsList := by
  cases entry with
  | object members =>
      simp only [enumValue] at refused
      split at refused
      · cases refused
      · exact .inl (Except.error.inj refused).symm
  | array items => exact .inr (Except.error.inj refused).symm
  | null | bool _ | number _ | string _ => cases refused

/-- Reading the values of an enumeration compares them with no type. -/
theorem enumValues_error {raw : Json} (refused : enumValues raw = .error cause)
    : cause = .enumNotList ∨ cause = .enumEntryWithoutValue ∨ cause = .enumEntryIsList := by
  cases raw with
  | array entries =>
      obtain ⟨entry, _, refused⟩ := Except.mapM_eq_error refused
      exact .inr (enumValue_error refused)
  | null | bool _ | number _ | string _ | object _ => exact .inl (Except.error.inj refused).symm

/-- An enumeration fails its check where its values are not read, or at one of its values, which
does not fit the type.
-/
theorem checkedEnum_eq_error {raw : Json} (refused : checkedEnum type raw = .error cause)
    : enumValues raw = .error cause
      ∨ ∃ values value,
          enumValues raw = .ok values
          ∧ value ∈ values
          ∧ ¬ value.Fits type
          ∧ cause = .enumMismatch value type := by
  rcases Except.bind_eq_error.mp refused with unread | ⟨values, reads, refused⟩
  · exact .inl unread
  · split at refused
    · next value search =>
        have against := List.find?_some search
        exact .inr ⟨values, value, reads, List.mem_of_find?_eq_some search,
          SchemaType.admits_eq_false_iff.mp (by simpa using against),
          (Except.error.inj refused).symm⟩
    · cases refused

theorem checkedEnum_error {raw : Json} (refused : checkedEnum type raw = .error cause)
    : cause.concernsAnnotations := by
  rcases checkedEnum_eq_error refused with unread | ⟨_, _, _, _, _, rfl⟩
  · rcases enumValues_error unread with rfl | rfl | rfl <;> rfl
  · rfl

/-- An enumeration passes its check exactly if its values are read and all of them fit the type. -/
theorem checkedEnum_eq_ok {raw : Json} {values : List Json}
    : checkedEnum type raw = .ok values
      ↔ enumValues raw = .ok values ∧ ∀ value ∈ values, value.Fits type := by
  simp only [← SchemaType.admits_iff]
  cases read : enumValues raw with
  | error other => simp [checkedEnum, read, bind, Except.bind]
  | ok found =>
      simp only [checkedEnum, read, bind, Except.bind, Except.ok.injEq]
      split
      · next value refused =>
          have member := List.mem_of_find?_eq_some refused
          have against := List.find?_some refused
          simp only [reduceCtorEq, throw, throwThe, MonadExceptOf.throw, false_iff, not_and]
          rintro rfl admitted
          simp [admitted value member] at against
      · next none =>
          constructor
          · rintro same
            obtain rfl : found = values := Except.ok.inj same
            exact ⟨rfl, fun value member => by simpa using List.find?_eq_none.mp none value member⟩
          · rintro ⟨rfl, _⟩
            rfl

/-- A mismatch is one of the values of the enumeration with the type that it is checked for. -/
theorem checkedEnum_mismatch {raw value : Json} {other : SchemaType}
    (refused : checkedEnum type raw = .error (.enumMismatch value other))
    : other = type
      ∧ ∃ values, enumValues raw = .ok values ∧ value ∈ values ∧ ¬ value.Fits type := by
  rcases checkedEnum_eq_error refused with unread | ⟨values, found, reads, member, against, same⟩
  · rcases enumValues_error unread with other | other | other <;> cases other
  · obtain ⟨rfl, rfl⟩ := Rejection.enumMismatch.inj same
    exact ⟨rfl, values, reads, member, against⟩

theorem describe?_error {source : Entries Json} {before : Option String}
    (refused : describe? source before = .error cause)
    : cause = .descriptionNotString := by
  unfold describe? at refused
  split at refused
  · cases refused
  · cases refused
  · exact (Except.error.inj refused).symm

/-- Annotations of a node are refused for its description, or for the enumeration that it brings. -/
theorem update_eq_error {source : Entries Json} {before : Annotations}
    (refused : update source type before = .error cause)
    : cause = .descriptionNotString
      ∨ ∃ raw, source.lookup "enum" = some raw ∧ checkedEnum type raw = .error cause := by
  rcases Except.bind_eq_error.mp refused with described | ⟨_, _, refused⟩
  · exact .inl (describe?_error described)
  · split at refused
    · cases refused
    · next raw found =>
        rcases Except.bind_eq_error.mp refused with checked | ⟨_, _, refused⟩
        · exact .inr ⟨raw, found, checked⟩
        · cases refused

/-- Putting annotations onto others is refused for their own sake only. -/
theorem update_error {source : Entries Json} {before : Annotations}
    (refused : update source type before = .error cause)
    : cause.concernsAnnotations := by
  rcases update_eq_error refused with rfl | ⟨raw, _, checked⟩
  · rfl
  · exact checkedEnum_error checked

/-- Annotations are refused for a mismatch only if the node brings an enumeration with it. -/
theorem update_mismatch {source : Entries Json} {before : Annotations} {value : Json}
    {other : SchemaType} (refused : update source type before = .error (.enumMismatch value other))
    : other = type ∧ ∃ raw values,
        source.lookup "enum" = some raw
        ∧ enumValues raw = .ok values ∧ value ∈ values ∧ ¬ value.Fits type := by
  rcases update_eq_error refused with described | ⟨raw, found, checked⟩
  · cases described
  · obtain ⟨same, values, mismatch⟩ := checkedEnum_mismatch checked
    exact ⟨same, raw, values, found, mismatch⟩

/-- Annotations of a node are put onto others: its description, if it has one, its default, and its
enumeration, if that passes its check.
-/
theorem update_eq_ok {source : Entries Json} {before after : Annotations}
    : update source type before = .ok after
      ↔ describe? source before.description? = .ok after.description?
        ∧ after.default? = (source.lookup "default").or before.default?
        ∧ (source.lookup "enum" = none ∧ after.enum? = before.enum?
          ∨ ∃ raw values,
              source.lookup "enum" = some raw
              ∧ checkedEnum type raw = .ok values
              ∧ after.enum? = some values) := by
  obtain ⟨description?, default?, enum?⟩ := after
  cases described : describe? source before.description? with
  | error cause => simp [update, described, bind, Except.bind]
  | ok text =>
      cases found : source.lookup "enum" with
      | none =>
          simp only [update, described, found, bind, Except.bind, pure, Except.pure]
          simp [eq_comm]
      | some raw =>
          cases checked : checkedEnum type raw <;>
            simp [update, described, found, checked, bind, Except.bind, pure, Except.pure,
              eq_comm]

/-- Annotations of a node keep to allowed values that fit its type. Witness: values that it brings
are checked, and others stay as they were.
-/
theorem update_admitted {source : Entries Json} {before after : Annotations}
    (admitted : before.AdmittedBy type) (updated : update source type before = .ok after)
    : after.AdmittedBy type := by
  obtain ⟨_, _, enumerated⟩ := update_eq_ok.mp updated
  rcases enumerated with ⟨_, same⟩ | ⟨raw, values, _, checked, same⟩
  · rw [AdmittedBy, same]
    exact admitted
  · rw [AdmittedBy, same]
    rintro _ ⟨⟩
    exact (checkedEnum_eq_ok.mp checked).2

end Annotations

namespace Schema

variable {source : Entries Json} {schema : Schema}

/-- A schema is refused annotations where its own annotations cannot be updated. -/
theorem updated_of_annotated {cause : Rejection} (refused : schema.annotated source = .error cause)
    : Annotations.update source schema.type schema.notes = .error cause := by
  unfold annotated at refused
  cases updated : Annotations.update source schema.type schema.notes with
  | error other => simpa only [updated, Except.map, Except.error.injEq] using refused
  | ok notes => simp [updated, Except.map] at refused

/-- A schema is refused annotations for their own sake only. -/
theorem annotated_error {cause : Rejection} (refused : schema.annotated source = .error cause)
    : cause.concernsAnnotations :=
  Annotations.update_error (updated_of_annotated refused)

/-- A schema is refused annotations for a mismatch with its own type. -/
theorem annotated_mismatch {value : Json} {type : SchemaType}
    (refused : schema.annotated source = .error (.enumMismatch value type))
    : type = schema.type ∧ ∃ raw values,
        source.lookup "enum" = some raw
        ∧ Annotations.enumValues raw = .ok values ∧ value ∈ values
        ∧ ¬ value.Fits type := by
  obtain ⟨rfl, mismatch⟩ := Annotations.update_mismatch (updated_of_annotated refused)
  exact ⟨rfl, mismatch⟩

/-- An annotated schema is the schema with updated annotations. -/
theorem annotated_eq_ok {result : Schema}
    : schema.annotated source = .ok result
      ↔ ∃ notes, Annotations.update source schema.type schema.notes = .ok notes
          ∧ schema.withNotes notes = result := by
  unfold annotated
  cases Annotations.update source schema.type schema.notes <;> simp [Except.map]

end Schema

end ComponentCrd
