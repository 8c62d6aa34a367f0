import ComponentCrd.Schema.Failure

/-! Annotations of a source node: a description, a default and an enumeration of the values
allowed. They are put onto the schema that the node's shape was translated to, in place of those
it brings along, so that the annotations at a reference hide those of its target.
-/

namespace ComponentCrd

/-- Whether a type admits a value of an enumeration. Every type admits null. -/
def SchemaType.admits : SchemaType → Json → Bool
  | _, .null => true
  | .integer, .number (.integer _) => true
  | .integer, .number (.float value) => value.magnitude.isWhole
  | .number, .number _ => true
  | .string, .string _ => true
  | .boolean, .bool _ => true
  | .array, .array _ => true
  | .object, .object _ => true
  | _, _ => false

namespace Annotations

/-- The value of an entry of an enumeration: a scalar itself, or the `value` of an object. -/
def enumValue : Json → Except Rejection Json
  | .object members =>
      match members.lookup "value" with
      | some value => .ok value
      | none => .error .enumEntryWithoutValue
  | .array _ => .error .enumEntryIsList
  | scalar => .ok scalar

/-- The values of an enumeration. -/
def enumValues : Json → Except Rejection (List Json)
  | .array entries => entries.mapM enumValue
  | _ => .error .enumNotList

/-- The values of an enumeration, all of which the type has to admit. -/
def checkedEnum (type : SchemaType) (raw : Json) : Except Rejection (List Json) := do
  let values ← enumValues raw
  match values.find? (!type.admits ·) with
  | some value => throw (.enumMismatch value type)
  | none => return values

/-- The description of a source node, or the one that is there already. -/
def describe? (source : Entries Json) (before : Option String) : Except Rejection (Option String) :=
  match source.lookup "description" with
  | none => .ok before
  | some (.string text) => .ok (some text)
  | some _ => .error .descriptionNotString

/-- Puts the annotations of a source node onto the ones of its translated shape. -/
def update (source : Entries Json) (type : SchemaType) (before : Annotations) :
    Except Rejection Annotations := do
  let description? ← describe? source before.description?
  let default? := (source.lookup "default").or before.default?
  match source.lookup "enum" with
  | none => return { description?, default?, enum? := before.enum? }
  | some raw => return { description?, default?, enum? := some (← checkedEnum type raw) }

end Annotations

/-- A schema with the annotations of a source node. -/
def Schema.annotated (source : Entries Json) (schema : Schema) : Except Rejection Schema :=
  (Annotations.update source schema.type schema.notes).map fun notes => schema.withNotes notes

end ComponentCrd
