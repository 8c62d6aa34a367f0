import ComponentCrd.Json.Decoding
import ComponentCrd.SortedDistinct

/-! Package documents: the name and version of a package, its resources, and its named types,
which stay JSON values until something refers to them.
-/

namespace ComponentCrd

/-- A resource of a package: whether it is a component, its input properties, and the names of
those that are required, in the order and as often as the document lists them.
-/
structure Resource where
  isComponent : Bool := false
  inputProperties : Entries Json := []
  requiredInputs : List String := []
deriving Repr, Inhabited

/-- The required inputs in increasing order, each once. -/
def Resource.normalizedRequired (resource : Resource) : List String :=
  sortedNames resource.requiredInputs

/-- A package document. -/
structure Document where
  name : String := ""
  version : String := ""
  resources : Entries Resource := []
  types : Entries Json := []
deriving Repr, Inhabited

namespace Document

/-- The resource of a token. -/
def resource? (doc : Document) (token : String) : Option Resource := doc.resources.lookup token

/-- The type of a token. -/
def type? (doc : Document) (token : String) : Option Json := doc.types.lookup token

open Json.Decode in
/-- The fields of a resource, in the order in which a list gives them. -/
def resourceFields : List (RecordField Resource) := [
  field "isComponent" (fun _ => bool) fun value resource => { resource with isComponent := value },
  field "inputProperties" (map value) fun value resource =>
    { resource with inputProperties := value },
  field "requiredInputs" (list fun _ => string) fun value resource =>
    { resource with requiredInputs := value }]

open Json.Decode in
/-- The fields of a document, in the order in which a list gives them. -/
def documentFields : List (RecordField Document) := [
  field "name" (fun _ => string) fun value doc => { doc with name := value },
  field "version" (fun _ => string) fun value doc => { doc with version := value },
  field "resources" (map (record "struct Resource" resourceFields {})) fun value doc =>
    { doc with resources := value },
  field "types" (map value) fun value doc => { doc with types := value }]

/-- The document that a JSON text holds. -/
def ofText (text : List UInt8) : Except Json.Fault Document :=
  let read := Json.Decode.record "struct Document" documentFields {} Json.Decode.deepest
  Json.Decode.whole read text

/-- The wording of a fault in the text of a document. -/
def faultMessage (fault : Json.Fault) (text : List UInt8) : String :=
  "parse input schema as JSON: " ++ fault.message text

end Document

end ComponentCrd
