import ComponentCrd.Json.Text
import ComponentCrd.Package.Reference
import ComponentCrd.Schema.Path
import ComponentCrd.Schema.Structural

/-! Why a schema node cannot be translated: constructs that structural schemas cannot express,
with how much harm they do, and nodes that are malformed.
-/

namespace ComponentCrd

/-- Keywords that a structural schema has no place for, in the order in which they are looked for.
-/
inductive Keyword where
  | oneOf
  | anyOf
  | allOf
  | not
  | discriminator
  | patternProperties
  | const
deriving DecidableEq, Repr

namespace Keyword

/-- Every such keyword. -/
def all : List Keyword := [.oneOf, .anyOf, .allOf, .not, .discriminator, .patternProperties, .const]

/-- The name of a keyword. -/
def name : Keyword → String
  | .oneOf => "oneOf"
  | .anyOf => "anyOf"
  | .allOf => "allOf"
  | .not => "not"
  | .discriminator => "discriminator"
  | .patternProperties => "patternProperties"
  | .const => "const"

/-- The first keyword that a node has. -/
def firstIn? (source : Entries Json) : Option Keyword := all.find? fun k => source.has k.name

end Keyword

/-- How the translation goes on after an unsupported construct: without the property that holds
it, or not at all.
-/
inductive Severity where
  | skippable
  | hard
deriving DecidableEq, Repr

/-- Constructs that a structural schema cannot express. -/
inductive Rejection where
  | keyword (keyword : Keyword)
  | typeNotString
  | unknownType (name : String)
  | enumWithoutType
  | noShape
  | itemsNotObject
  | requiredNotNames
  | valuesNotObject
  | descriptionNotString
  | enumNotList
  | enumEntryWithoutValue
  | enumEntryIsList
  | enumMismatch (value : Json) (type : SchemaType)
  | cyclic (reference : Reference)
deriving Repr

namespace Rejection

/-- The wording of a rejection. -/
def summary : Rejection → String
  | .keyword word => "keyword \"" ++ word.name ++ "\""
  | .typeNotString => "type must be a string"
  | .unknownType name => "type \"" ++ name ++ "\""
  | .enumWithoutType => "enum without explicit type"
  | .noShape => "missing supported shape (expected one of $ref or type)"
  | .itemsNotObject => "array items must be an object schema"
  | .requiredNotNames => "required must be a list of strings"
  | .valuesNotObject => "additionalProperties must be an object schema"
  | .descriptionNotString => "description must be a string"
  | .enumNotList => "enum must be a list"
  | .enumEntryWithoutValue => "enum object entries must have a value field"
  | .enumEntryIsList => "enum entries must be scalars or objects with a value field"
  | .enumMismatch value type =>
      "enum value " ++ value.compact ++ " is not compatible with type \"" ++ type.name ++ "\""
  | .cyclic reference => "cyclic local ref \"" ++ reference.text ++ "\""

/-- Only a cycle and an enum value against its type stop the translation. -/
def severity : Rejection → Severity
  | enumMismatch _ _ => .hard
  | cyclic _ => .hard
  | _ => .skippable

end Rejection

/-- A rejection and the path of the rejected node. -/
structure Refusal where
  path : Path
  cause : Rejection
deriving Repr

/-- What is wrong with a malformed node. -/
inductive Malformation where
  | notObject
  | referenceNotString
  | propertiesNotObject
  | unresolvedType (reference : Reference)
  | unresolvedResource (reference : Reference)
  | typeNotObject (reference : Reference)
deriving DecidableEq, Repr

/-- The wording of a malformation. -/
def Malformation.cause : Malformation → String
  | .notObject => "schema node must be a JSON object"
  | .referenceNotString => "$ref must be a string"
  | .propertiesNotObject => "properties must be a JSON object"
  | .unresolvedType reference => "unresolved local type ref \"" ++ reference.text ++ "\""
  | .unresolvedResource reference => "unresolved local resource ref \"" ++ reference.text ++ "\""
  | .typeNotObject reference =>
      "local type ref \"" ++ reference.text ++ "\" does not resolve to a JSON object"

/-- Why the translation of a node failed. -/
inductive Failure where
  | unsupported (refusal : Refusal)
  | malformed (path : Path) (cause : Malformation)
deriving Repr

/-- An unsupported construct of a component, in words. -/
structure Unsupported where
  component : String
  path : String
  summary : String
  severity : Severity
deriving DecidableEq, Repr

/-- The wording of an unsupported construct. -/
def Unsupported.message (u : Unsupported) : String :=
  "unsupported schema component \"" ++ u.component ++ "\" path \"" ++ u.path ++ "\": " ++ u.summary

/-- Whether the translation goes on without the construct. -/
def Unsupported.isSkippable (u : Unsupported) : Bool := u.severity == .skippable

/-- A refusal in words. -/
def Refusal.unsupported (refusal : Refusal) (component : String) : Unsupported :=
  ⟨component, refusal.path.text, refusal.cause.summary, refusal.cause.severity⟩

end ComponentCrd
