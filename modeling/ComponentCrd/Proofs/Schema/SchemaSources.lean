import ComponentCrd.Proofs.Schema.FreeformMarks
import ComponentCrd.Proofs.Schema.TranslatedGrammar

/-! Schemas as source nodes. The JSON form of a schema has no references and no rejected keywords,
and every shape and every annotation is translated to itself, but for the mark of freeform nodes,
which says nothing to the translation, and for allowed values that are lists or objects, which are
read in another way than they are written.
-/

namespace ComponentCrd

-----------------------------------------------------------------------------------------
-- Enumerations that are read as they are written
-----------------------------------------------------------------------------------------

/-- Whether the value is neither a list nor an object. -/
def Json.isScalar : Json → Bool
  | .array _ => false
  | .object _ => false
  | _ => true

/-- Whether every allowed value is a scalar. -/
def Annotations.scalarEnum (notes : Annotations) : Bool := (notes.enum?.getD []).all Json.isScalar

namespace Schema

mutual

/-- Whether every value that a node of the schema allows is a scalar. -/
def scalarEnums : Schema → Bool
  | .scalar _ notes => notes.scalarEnum
  | .array items notes => notes.scalarEnum && items.scalarEnums
  | .object properties? values? _ notes =>
      notes.scalarEnum && scalarEnumsProperties properties? && scalarEnumsOption values?
  | .freeform notes => notes.scalarEnum

/-- Whether the allowed values of a schema that may be missing are scalars. -/
def scalarEnumsOption : Option Schema → Bool
  | none => true
  | some schema => schema.scalarEnums

/-- Whether the allowed values of properties that may be missing are scalars. -/
def scalarEnumsProperties : Option (List (String × Schema)) → Bool
  | none => true
  | some properties => scalarEnumsEntries properties

/-- Whether the allowed values of named schemas are scalars. -/
def scalarEnumsEntries : List (String × Schema) → Bool
  | [] => true
  | (_, schema) :: rest => schema.scalarEnums && scalarEnumsEntries rest

end

theorem scalarEnums_of_mem {properties : Entries Schema} (scalars : scalarEnumsEntries properties)
    {entry : String × Schema} (member : entry ∈ properties)
    : entry.2.scalarEnums := by
  induction properties with
  | nil => cases member
  | cons head rest ih =>
      simp only [scalarEnumsEntries, Bool.and_eq_true] at scalars
      rcases List.mem_cons.mp member with rfl | later
      · exact scalars.1
      · exact ih scalars.2 later

end Schema

namespace Annotations

/-- An entry is read exactly if it is an object with a member `value`, which is then what it stands
for, or a scalar, which stands for itself.
-/
theorem enumValue_eq_ok {entry value : Json}
    : enumValue entry = .ok value
      ↔ (∃ members, entry = .object members ∧ members.lookup "value" = some value)
        ∨ entry.isScalar ∧ entry = value := by
  cases entry with
  | object members =>
      simp only [enumValue]
      cases found : members.lookup "value" <;> simp [found, Json.isScalar]
  | array items => simp [enumValue, Json.isScalar]
  | null | bool _ | number _ | string _ => simp [enumValue, Json.isScalar]

/-- Scalars are read as they are written, by induction over the list. -/
theorem enumValues_of_scalars {values : List Json} (scalars : values.all Json.isScalar)
    : enumValues (.array values) = .ok values := by
  unfold enumValues
  induction values with
  | nil => rfl
  | cons value rest ih =>
      simp only [List.all_cons, Bool.and_eq_true] at scalars
      have first : enumValue value = .ok value := enumValue_eq_ok.mpr (.inr ⟨scalars.1, rfl⟩)
      simp only [List.mapM_cons, first, ih scalars.2]
      rfl

variable {type written : SchemaType} {notes : Annotations}
  {values? items? properties? : Option Json} {required : List String} {freeform : Bool}

/-- Annotations that a type admits are read back from the members of a node. -/
theorem update_membersOf (admitted : notes.AdmittedBy type) (scalars : notes.scalarEnum)
    : update (Schema.membersOf written notes values? items? properties? required freeform) type {}
      = .ok notes := by
  have lookup :=
    @Schema.lookup_membersOf written notes values? items? properties? required freeform
  generalize Schema.membersOf written notes values? items? properties? required freeform = source
    at lookup
  obtain ⟨description?, default?, enum?⟩ := notes
  have described : describe? source none = .ok description? := by
    have found : source.lookup "description" = description?.map .string := by
      simp [lookup, Schema.slots, List.lookup_cons]
    unfold describe?
    rw [found]
    cases description? <;> rfl
  have defaulted : source.lookup "default" = default? := by
    simp [lookup, Schema.slots, List.lookup_cons]
  have allowed : source.lookup "enum" = enum?.map .array := by
    simp [lookup, Schema.slots, List.lookup_cons]
  cases enum? with
  | none => simp [update, described, defaulted, allowed, bind, Except.bind, pure, Except.pure]
  | some values =>
      have checked : checkedEnum type (.array values) = .ok values :=
        checkedEnum_eq_ok.mpr ⟨enumValues_of_scalars scalars, admitted values rfl⟩
      simp [update, described, defaulted, allowed, checked, bind, Except.bind, pure, Except.pure]

end Annotations

namespace Schema

-----------------------------------------------------------------------------------------
-- The members of a node as a source
-----------------------------------------------------------------------------------------

/-- A source without a reference whose nodes are the JSON forms of schemas. -/
structure SelfContained (source : Entries Json) : Prop where
  own : source.lookup "$ref" = none
  properties
    : ∀ value, source.lookup "properties" = some value
        → ∃ properties, value = .object (entriesToJson properties)
  items : ∀ value, source.lookup "items" = some value → ∃ schema : Schema, value = schema.toJson
  values
    : ∀ value, source.lookup "additionalProperties" = some value
        → ∃ schema : Schema, value = schema.toJson

/-- The properties of such a node are schemas. -/
theorem SelfContained.property {source properties : Entries Json}
    (contained : SelfContained source)
    (found : source.lookup "properties" = some (.object properties)) {entry : String × Json}
    (member : entry ∈ properties)
    : ∃ schema : Schema, entry.2 = schema.toJson := by
  obtain ⟨schemas, members⟩ := contained.properties _ found
  cases members
  obtain ⟨named, _, same⟩ := mem_entriesToJson member
  exact ⟨named.2, same.symm⟩

variable {type : SchemaType} {notes : Annotations} {values? items? properties? : Option Json}
  {required : List String} {freeform : Bool}

/-- A node has no reference. -/
theorem reference_membersOf
    : (membersOf type notes values? items? properties? required freeform).lookup "$ref" = none := by
  simp [lookup_membersOf, slots, List.lookup_cons, Grammar.freeformMark]

theorem type_membersOf
    : (membersOf type notes values? items? properties? required freeform).lookup "type"
      = some (.string type.name) := by
  simp [lookup_membersOf, slots, List.lookup_cons]

theorem items_membersOf
    : (membersOf type notes values? items? properties? required freeform).lookup "items"
      = items? := by
  simp [lookup_membersOf, slots, List.lookup_cons]

theorem properties_membersOf
    : (membersOf type notes values? items? properties? required freeform).lookup "properties"
      = properties? := by
  simp [lookup_membersOf, slots, List.lookup_cons]

theorem values_membersOf
    : (membersOf type notes values? items? properties? required freeform).lookup
        "additionalProperties"
      = values? := by
  simp [lookup_membersOf, slots]

theorem required_membersOf
    : (membersOf type notes values? items? properties? required freeform).lookup "required"
      = if required.isEmpty then none else some (.ofStrings required) := by
  simp [lookup_membersOf, slots, List.lookup_cons]

theorem selfContained_membersOf
    (properties
      : ∀ value, properties? = some value
          → ∃ properties, value = .object (entriesToJson properties))
    (items : ∀ value, items? = some value → ∃ schema : Schema, value = schema.toJson)
    (values : ∀ value, values? = some value → ∃ schema : Schema, value = schema.toJson)
    : SelfContained (membersOf type notes values? items? properties? required freeform) where
  own := reference_membersOf
  properties := by rwa [properties_membersOf]
  items := by rwa [items_membersOf]
  values := by rwa [values_membersOf]

/-- The JSON form of a schema is an object that needs nothing from outside. -/
theorem selfContained_toJson (schema : Schema)
    : ∃ source, schema.toJson = .object source ∧ SelfContained source := by
  cases schema with
  | scalar type notes =>
      rw [toJson]
      exact ⟨_, rfl, selfContained_membersOf nofun nofun nofun⟩
  | array items notes =>
      rw [toJson]
      refine ⟨_, rfl, selfContained_membersOf nofun ?_ nofun⟩
      rintro _ ⟨⟩
      exact ⟨items, rfl⟩
  | object properties? values? required notes =>
      rw [toJson]
      refine ⟨_, rfl, selfContained_membersOf ?_ nofun ?_⟩
      · cases properties? with
        | none => nofun
        | some properties =>
            rintro _ ⟨⟩
            exact ⟨properties, rfl⟩
      · cases values? with
        | none => nofun
        | some schema =>
            rintro _ ⟨⟩
            exact ⟨schema, rfl⟩
  | freeform notes =>
      rw [toJson]
      exact ⟨_, rfl, selfContained_membersOf nofun nofun nofun⟩

/-- No member of a node is a rejected keyword. -/
theorem firstIn?_membersOf
    : Keyword.firstIn? (membersOf type notes values? items? properties? required freeform)
      = none := by
  refine List.find?_eq_none.mpr fun keyword _ has => ?_
  have known := names_membersOf.subset (Entries.has_iff_mem_names.mp has)
  revert known
  cases keyword <;> decide

-----------------------------------------------------------------------------------------
-- Nodes that are translated to themselves
-----------------------------------------------------------------------------------------

variable {resolve : Reference → Path → Attempt Schema} {path : Path}

/-- A node is translated to its shape with its own annotations, if it has the shape already. -/
theorem ofNode_membersOf (shape : Schema) {source : Entries Json}
    (members : source = membersOf type notes values? items? properties? required freeform)
    (shaped : ofShape resolve source path = pure shape) (bare : shape.notes = {})
    (admitted : notes.AdmittedBy shape.type) (scalars : notes.scalarEnum)
    : ofNode resolve (.object source) path = pure (shape.withNotes notes) := by
  have annotated : shape.annotated source = .ok (shape.withNotes notes) := by
    refine annotated_eq_ok.mpr ⟨notes, ?_, rfl⟩
    rw [bare, members]
    exact Annotations.update_membersOf admitted scalars
  rw [ofNode_of_no_keyword resolve path (members ▸ firstIn?_membersOf), shaped]
  change Attempt.ofCheck path (shape.annotated source) = _
  rw [annotated]
  rfl

/-- Properties are translated to themselves where each one is, by induction over the properties. -/
theorem ofProperties_entriesToJson {properties : Entries Schema}
    (each
      : ∀ entry ∈ properties, ∀ path, ofNode resolve entry.2.toJson path = pure entry.2.unmarked)
    : ofProperties resolve (entriesToJson properties) path = pure (unmarkedEntries properties) := by
  induction properties with
  | nil =>
      rw [entriesToJson, ofProperties]
      rfl
  | cons entry rest ih =>
      obtain ⟨name, schema⟩ := entry
      rw [entriesToJson, ofProperties_cons, each _ (.head _),
        ih fun other member => each other (.tail _ member)]
      rfl

/-- Required names are read back if they are in order. -/
theorem requiredNames_membersOf (increasing : required.Pairwise (· < ·))
    : requiredNames (membersOf type notes values? items? properties? required freeform) path
      = pure required := by
  rw [requiredNames, required_membersOf]
  cases required with
  | nil => rfl
  | cons name rest =>
      simp only [List.isEmpty_cons, Bool.false_eq_true, if_false, Json.strings?_ofStrings]
      rw [sortedNames_of_increasing increasing]

/-- Required names of properties that are kept stay. -/
theorem filter_required {properties : Entries Schema}
    (kept : ∀ name ∈ required, Entries.has properties name)
    : required.filter (Entries.has (unmarkedEntries properties) ·) = required := by
  refine List.filter_eq_self.mpr fun name member => ?_
  rw [Entries.has_iff_mem_names, names_unmarkedEntries]
  exact Entries.has_iff_mem_names.mp (kept name member)

/-- An object is translated to its parts if each of them is. -/
theorem ofObject_of_parts {source : Entries Json} {properties? : Option (Entries Schema)}
    {values? : Option Schema} (requires : requiredNames source path = pure required)
    (properties : propertiesOf resolve source path = pure properties?)
    (values : valuesOf resolve source path = pure values?)
    : ofObject resolve source path = pure (assemble required properties? values?) := by
  rw [ofObject, requires, properties, values]
  rfl

/-- An object of parts that are translated to themselves is translated to the object without the
marks of its nodes.
-/
theorem ofNode_partsToJson {properties? : Option (Entries Schema)} {values? : Option Schema}
    (properties
      : ∀ entry ∈ properties?.getD [], ∀ path,
          ofNode resolve entry.2.toJson path = pure entry.2.unmarked)
    (values
      : ∀ schema, values? = some schema
          → ∀ path, ofNode resolve schema.toJson path = pure schema.unmarked)
    (increasing : required.Pairwise (· < ·))
    (kept : ∀ name ∈ required, Entries.has (properties?.getD []) name)
    (admitted : notes.AdmittedBy .object) (scalars : notes.scalarEnum)
    : ofNode resolve
          (.object (membersOf .object notes (optionToJson values?) none
            (propertiesToJson properties?) required freeform)) path
      = pure (.object (unmarkedProperties properties?) (unmarkedOption values?) required notes)
    := by
  generalize members
    : membersOf .object notes (optionToJson values?) none (propertiesToJson properties?) required
        freeform = source
  have translated : propertiesOf resolve source path = pure (unmarkedProperties properties?) := by
    rw [propertiesOf_eq, ← members, properties_membersOf]
    cases properties? with
    | none => rfl
    | some named =>
        have translated : ofProperties resolve (entriesToJson named) path = _ :=
          ofProperties_entriesToJson properties
        simp only [propertiesToJson, translated]
        rfl
  have others : valuesOf resolve source path = pure (unmarkedOption values?) := by
    rw [valuesOf_eq, ← members, values_membersOf]
    cases values? with
    | none => rfl
    | some schema =>
        obtain ⟨below, same, _⟩ := selfContained_toJson schema
        have translated := values schema rfl (.values path)
        rw [same] at translated
        simp only [optionToJson, same, translated]
        rfl
  have requires : requiredNames source path = pure required := by
    rw [← members]
    exact requiredNames_membersOf increasing
  have filtered
      : required.filter (Entries.has ((unmarkedProperties properties?).getD []) ·) = required := by
    cases properties? with
    | none => exact filter_required kept
    | some named => exact filter_required kept
  have shaped
      : ofShape resolve source path
        = pure (.object (unmarkedProperties properties?) (unmarkedOption values?) required {}) := by
    have own : source.lookup "$ref" = none := members ▸ reference_membersOf
    have typed : source.lookup "type" = some (.string "object") := members ▸ type_membersOf
    rw [ofShape_object resolve path own typed, ofObject_of_parts requires translated others,
      assemble, filtered]
  exact ofNode_membersOf _ members.symm shaped rfl admitted scalars

/-- A sound schema is translated to itself without the marks of its nodes, wherever it stands and
whatever references stand for, by induction on the schema.
-/
theorem ofNode_toJson {schema : Schema} (sound : schema.Sound) (scalars : schema.scalarEnums)
    : ∀ path, ofNode resolve schema.toJson path = pure schema.unmarked := by
  induction sound with
  | @scalar type notes admitted =>
      intro path
      have named : ScalarType.ofName? type.type.name = some type := by cases type <;> decide
      rw [toJson]
      refine ofNode_membersOf (.scalar type {}) rfl ?_ rfl admitted scalars
      rw [ofShape_scalar resolve path reference_membersOf type_membersOf, named]
      · cases type <;> decide
      · cases type <;> decide
  | @array items notes each admitted ih =>
      intro path
      simp only [scalarEnums, Bool.and_eq_true] at scalars
      obtain ⟨below, same, _⟩ := selfContained_toJson items
      have translated := ih scalars.2 (.items path)
      rw [same] at translated
      rw [toJson]
      refine ofNode_membersOf (.array items.unmarked {}) rfl ?_ rfl admitted scalars.1
      rw [ofShape_array resolve path reference_membersOf type_membersOf, items_membersOf, same]
      simp only [translated]
      rfl
  | @object properties? values? required notes _ _ increasing kept admitted below other =>
      intro path
      simp only [scalarEnums, Bool.and_eq_true] at scalars
      obtain ⟨⟨own, inProperties⟩, inValues⟩ := scalars
      rw [toJson]
      refine ofNode_partsToJson ?_ ?_ increasing kept admitted own
      · cases properties? with
        | none => nofun
        | some properties =>
            exact fun entry member => below entry member (scalarEnums_of_mem inProperties member)
      · rintro schema rfl
        exact other schema rfl inValues
  | @freeform notes admitted =>
      intro path
      -- The translation never looks at the mark: what it reads is an object without any parts.
      have bare
          : ofNode resolve
                (.object (membersOf .object notes (optionToJson none) none
                  (propertiesToJson none) [] true)) path
            = pure (.object none none [] notes) :=
        ofNode_partsToJson nofun nofun .nil nofun admitted scalars
      rw [toJson]
      exact bare

end Schema

end ComponentCrd
