import ComponentCrd.Package.Reference
import ComponentCrd.Package.Selection
import ComponentCrd.Schema.Path

/-! A check of shapes ahead of the translation: every node that can be reached through properties,
items, values and references is an object, and every reference of the package leads to something.
What cannot be translated is no concern here, and a cycle of references is no fault.
A target is checked once: references whose targets have passed are carried along, and one that is
being visited counts as passed.
-/

namespace ComponentCrd.Preflight

/-- Which references pass: outside references only if a single component is checked. -/
inductive Mode where
  | component
  | document
deriving DecidableEq, Repr

/-- What is wrong with a node. -/
inductive Violation where
  | notObject
  | referenceNotString
  | propertiesNotObject
  | propertyNotObject
  | itemsNotObject
  | valuesNotObject
  | unresolvedType (reference : Reference)
  | unresolvedResource (reference : Reference)
  | typeNotObject (reference : Reference)
  | outsideReference (reference : Reference)
deriving DecidableEq, Repr

/-- The wording of a violation. -/
def Violation.cause : Violation → String
  | .notObject => "schema node must be a JSON object"
  | .referenceNotString => "$ref must be a string"
  | .propertiesNotObject => "properties must be a JSON object"
  | .propertyNotObject => "property schema must be a JSON object"
  | .itemsNotObject => "items must be a JSON object"
  | .valuesNotObject => "additionalProperties must be a JSON object"
  | .unresolvedType reference => "unresolved local type ref \"" ++ reference.text ++ "\""
  | .unresolvedResource reference => "unresolved local resource ref \"" ++ reference.text ++ "\""
  | .typeNotObject reference =>
      "local type ref \"" ++ reference.text ++ "\" does not resolve to a JSON object"
  | .outsideReference reference => "non-local ref \"" ++ reference.text ++ "\" is not supported"

/-- A violation and the path of the node. -/
structure Breach where
  path : Path
  violation : Violation
deriving DecidableEq, Repr

/-- A check: the first breach, or the references whose targets have passed so far. -/
abbrev Check := List Reference → Except Breach (List Reference)

/-- A check that fails. -/
def breach (path : Path) (violation : Violation) : Check := fun _ => .error ⟨path, violation⟩

/-- A check that passes. -/
def pass : Check := .ok

/-- One check after the other. -/
def both (first second : Check) : Check := fun passed => first passed >>= second

mutual

/-- Checks a node: its reference, its properties, its items and its other values. -/
def node (follow : Reference → Path → Check) (value : Json) (path : Path) : Check :=
  match value with
  | .object source =>
      let reference : Check :=
        match source.lookup "$ref" with
        | none => pass
        | some (.string text) => follow (.ofText text) path
        | some _ => breach path .referenceNotString
      let inProperties : Check :=
        match h : source.lookup "properties" with
        | none => pass
        | some (.object members) =>
            have := Entries.sizeOf_members_lt h
            properties follow members path
        | some _ => breach path .propertiesNotObject
      let inItems : Check :=
        match h : source.lookup "items" with
        | none => pass
        | some (.object items) =>
            have := Entries.sizeOf_members_lt h
            node follow (.object items) (.items path)
        | some _ => breach (.items path) .itemsNotObject
      let inValues : Check :=
        match h : source.lookup "additionalProperties" with
        | none => pass
        | some (.object values) =>
            have := Entries.sizeOf_members_lt h
            node follow (.object values) (.values path)
        | some _ => breach (.values path) .valuesNotObject
      both reference (both inProperties (both inItems inValues))
  | _ => breach path .notObject
termination_by sizeOf value

/-- Checks the properties of a node one after the other. -/
def properties (follow : Reference → Path → Check) (members : Entries Json) (path : Path) : Check :=
  match members with
  | [] => pass
  | (name, value) :: rest =>
      let first : Check :=
        match value with
        | .object source => node follow (.object source) (.property path name)
        | _ => breach (.property path name) .propertyNotObject
      both first (properties follow rest path)
termination_by sizeOf members

end

/-- Checks the input properties of a resource one after the other. -/
def inputs (follow : Reference → Path → Check) (properties : Entries Json) (path : Path) : Check :=
  match properties with
  | [] => pass
  | (name, value) :: rest =>
      both (node follow value (.property path name)) (inputs follow rest path)

end ComponentCrd.Preflight

namespace ComponentCrd.Document

open Preflight

/-- Checks what a reference leads to, at the path of the reference, unless it has passed or is
being visited.
-/
def follow (doc : Document) (mode : Mode) (visiting : List Reference) (reference : Reference)
    (path : Path) : Check := fun passed =>
  match reference with
  | .external _ =>
      match mode with
      | .component => .ok passed
      | .document => .error ⟨path, .outsideReference reference⟩
  | reference =>
      if seen : reference ∈ passed ∨ reference ∈ visiting then
        .ok passed
      else
        match h : doc.target? reference with
        | some (.type (.object source)) => do
            have := unvisited_cons_lt (mem_references_of_target? h) (fun m => seen (.inr m))
            let inside (next : Reference) (path : Path) : Check :=
              doc.follow mode (reference :: visiting) next path
            return reference :: (← node inside (.object source) path passed)
        | some (.type _) => .error ⟨path, .typeNotObject reference⟩
        | some (.resource resource) => do
            have := unvisited_cons_lt (mem_references_of_target? h) (fun m => seen (.inr m))
            let inside (next : Reference) (path : Path) : Check :=
              doc.follow mode (reference :: visiting) next path
            return reference :: (← inputs inside resource.inputProperties path passed)
        | none =>
            match reference with
            | .resource _ => .error ⟨path, .unresolvedResource reference⟩
            | _ => .error ⟨path, .unresolvedType reference⟩
termination_by doc.unvisited visiting

end ComponentCrd.Document

namespace ComponentCrd

/-- A breach in a component, or in a resource or type that takes the place of one. -/
structure PreflightError where
  component : String
  breach : Preflight.Breach
deriving DecidableEq, Repr

/-- The wording of a preflight error. -/
def PreflightError.message (error : PreflightError) : String :=
  "schema preflight component \"" ++ error.component ++ "\" path \"" ++ error.breach.path.text
    ++ "\": " ++ error.breach.violation.cause

namespace Document

open Preflight

/-- Checks everything that a component reaches. -/
def preflight (doc : Document) (component : Component) : Except PreflightError Unit :=
  match inputs (doc.follow .component []) component.resource.inputProperties .spec [] with
  | .ok _ => .ok ()
  | .error breach => .error ⟨component.token, breach⟩

/-- Named checks one after the other, with the name for the error. -/
def inTurn (checks : List (String × Check)) (passed : List Reference) :
    Except PreflightError (List Reference) :=
  match checks with
  | [] => .ok passed
  | (name, check) :: rest =>
      match check passed with
      | .ok passed => inTurn rest passed
      | .error breach => .error ⟨name, breach⟩

/-- Checks every resource and every type of a document. -/
def preflightAll (doc : Document) : Except PreflightError Unit :=
  let follow := doc.follow .document []
  let resources := doc.resources.map fun (token, resource) =>
    (token, inputs follow resource.inputProperties .spec)
  let types := doc.types.map fun (token, value) => (token, node follow value .spec)
  (inTurn (resources ++ types) []).map fun _ => ()

end Document

end ComponentCrd
