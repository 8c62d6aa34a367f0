import ComponentCrd.Manifest.Yaml
import ComponentCrd.Naming.Identity

/-! Custom resource definitions: a fixed frame around the schema of the specification. -/

namespace ComponentCrd

/-- Why there is no definition to write. -/
inductive DefinitionError where
  | nullSchema
deriving DecidableEq, Repr

/-- The wording of a definition error. -/
def DefinitionError.message : DefinitionError → String
  | .nullSchema => "serialize CRD: translated spec schema is null"

namespace Definition

open Yaml

/-- The definition of an identity, with the schema of its specification. -/
def node (identity : Identity) (spec : Json) : Node :=
  let schema := Node.ofEntries [
    ("type", .ofString "object"),
    ("properties", .ofEntries [("spec", .ofJson none spec)])]
  let version := Node.ofEntries [
    ("name", .ofString identity.version),
    ("served", .ofBool true),
    ("storage", .ofBool true),
    ("schema", .ofEntries [("openAPIV3Schema", schema)])]
  let names := Node.ofEntries [
    ("kind", .ofString identity.kind),
    ("plural", .ofString identity.plural),
    ("singular", .ofString identity.singular)]
  Node.ofEntries [
    ("apiVersion", .ofString "apiextensions.k8s.io/v1"),
    ("kind", .ofString "CustomResourceDefinition"),
    ("metadata", .ofEntries [("name", .ofQuoted identity.objectName)]),
    ("spec", .ofEntries [
      ("group", .ofString identity.group),
      ("names", names),
      ("scope", .ofString "Namespaced"),
      ("versions", .sequence [version])])]

/-- The text of a definition. A null schema has none. -/
def render (identity : Identity) (spec : Json) : Except DefinitionError String :=
  match spec with
  | .null => .error .nullSchema
  | spec => .ok (node identity spec).document

theorem render_of_ne_null {identity : Identity} {spec : Json} (schema : spec ≠ .null)
    : render identity spec = .ok (node identity spec).document := by
  cases spec with
  | null => exact (schema rfl).elim
  | bool _ | number _ | string _ | array _ | object _ => rfl

end Definition

end ComponentCrd
