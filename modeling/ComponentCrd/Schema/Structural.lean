import ComponentCrd.Json.Value

/-! Structural schemas: the part of OpenAPI v3 that a custom resource definition may use, and
their form as JSON.
-/

namespace ComponentCrd

/-- The types of a schema node. -/
inductive SchemaType where
  | string
  | boolean
  | integer
  | number
  | array
  | object
deriving DecidableEq, Repr

/-- The name of a type. -/
def SchemaType.name : SchemaType → String
  | .string => "string"
  | .boolean => "boolean"
  | .integer => "integer"
  | .number => "number"
  | .array => "array"
  | .object => "object"

/-- The types of nodes that have no nodes below them. -/
inductive ScalarType where
  | string
  | boolean
  | integer
  | number
deriving DecidableEq, Repr

namespace ScalarType

/-- A scalar type among all types. -/
def type : ScalarType → SchemaType
  | .string => .string
  | .boolean => .boolean
  | .integer => .integer
  | .number => .number

/-- The scalar type of a name. -/
def ofName? (name : String) : Option ScalarType :=
  [string, boolean, integer, number].find? (·.type.name == name)

end ScalarType

/-- What may stand at every schema node beside its shape. -/
structure Annotations where
  description? : Option String := none
  default? : Option Json := none
  enum? : Option (List Json) := none
deriving Repr, Inhabited

/-- A structural schema. An object without `properties?` says nothing about its properties, and a
freeform node admits every object.
-/
inductive Schema where
  | scalar (type : ScalarType) (notes : Annotations)
  | array (items : Schema) (notes : Annotations)
  | object (properties? : Option (List (String × Schema))) (values? : Option Schema)
      (required : List String) (notes : Annotations)
  | freeform (notes : Annotations)
deriving Repr

namespace Schema

/-- The schema of what cannot be described inside the package. -/
def fallback : Schema := .freeform {}

/-- The type of a node. -/
def type : Schema → SchemaType
  | .scalar type _ => type.type
  | .array _ _ => .array
  | .object _ _ _ _ => .object
  | .freeform _ => .object

/-- The annotations of a node. -/
def notes : Schema → Annotations
  | .scalar _ notes => notes
  | .array _ notes => notes
  | .object _ _ _ notes => notes
  | .freeform notes => notes

/-- The node with other annotations. -/
def withNotes (notes : Annotations) : Schema → Schema
  | .scalar type _ => .scalar type notes
  | .array items _ => .array items notes
  | .object properties? values? required _ => .object properties? values? required notes
  | .freeform _ => .freeform notes

/-- A member that stands only if there is a value for it. -/
def member (name : String) (value? : Option Json) : List (String × Json) :=
  value?.toList.map fun value => (name, value)

/-- The members of a node in the order of their names, from their values. -/
def membersOf (type : SchemaType) (notes : Annotations) (values? items? properties? : Option Json)
    (required : List String) (freeform : Bool) : List (String × Json) :=
  member "additionalProperties" values?
    ++ member "default" notes.default?
    ++ member "description" (notes.description?.map .string)
    ++ member "enum" (notes.enum?.map .array)
    ++ member "items" items?
    ++ member "properties" properties?
    ++ member "required" (if required.isEmpty then none else some (.ofStrings required))
    ++ [("type", .string type.name)]
    ++ member "x-kubernetes-preserve-unknown-fields" (if freeform then some (.bool true) else none)

mutual

/-- The JSON form of a schema. -/
def toJson : Schema → Json
  | .scalar type notes => .object (membersOf type.type notes none none none [] false)
  | .array items notes => .object (membersOf .array notes none (some items.toJson) none [] false)
  | .object properties? values? required notes =>
      .object (membersOf .object notes (optionToJson values?) none (propertiesToJson properties?)
        required false)
  | .freeform notes => .object (membersOf .object notes none none none [] true)

/-- The JSON form of a schema that may be missing. -/
def optionToJson : Option Schema → Option Json
  | none => none
  | some schema => some schema.toJson

/-- The JSON form of properties that may be missing. -/
def propertiesToJson : Option (List (String × Schema)) → Option Json
  | none => none
  | some properties => some (.object (entriesToJson properties))

/-- The JSON forms of named schemas. -/
def entriesToJson : List (String × Schema) → List (String × Json)
  | [] => []
  | (name, schema) :: rest => (name, schema.toJson) :: entriesToJson rest

end

end Schema

end ComponentCrd
