import ComponentCrd.Package.Selection
import ComponentCrd.Schema.Annotation
import ComponentCrd.Schema.Attempt
import ComponentCrd.Schema.Skip

/-! The translation of a component's input properties into a structural schema. A node is
translated by recursion on its own members, with references left to a given resolver; the resolver
of a document translates the target of a reference with that reference on the trail, and refuses
one that is on the trail already. The trail grows by references of the document only, so the
recursion ends.
-/

namespace ComponentCrd

namespace Schema

/-- The names that an object requires, in increasing order. -/
def requiredNames (source : Entries Json) (path : Path) : Attempt (List String) :=
  match source.lookup "required" with
  | none => pure []
  | some raw =>
      match raw.strings? with
      | some names => pure (sortedNames names)
      | none => .refuse path .requiredNotNames

/-- The object of its translated parts. Of the names it requires only those of properties that
were kept count.
-/
def assemble (required : List String) (properties? : Option (Entries Schema))
    (values? : Option Schema) : Schema :=
  .object properties? values? (required.filter (Entries.has (properties?.getD []) ·)) {}

mutual

/-- Translates a schema node: no rejected keyword, then the shape, then the annotations. -/
def ofNode (resolve : Reference → Path → Attempt Schema) (node : Json) (path : Path) :
    Attempt Schema :=
  match node with
  | .object source =>
      match Keyword.firstIn? source with
      | some keyword => .refuse path (.keyword keyword)
      | none => do
          let shape ← ofShape resolve source path
          Attempt.ofCheck path (shape.annotated source)
  | _ => .malformed path .notObject
termination_by 3 * sizeOf node

/-- Translates the shape of a node: the target of its reference, or what its type says. -/
def ofShape (resolve : Reference → Path → Attempt Schema) (source : Entries Json) (path : Path) :
    Attempt Schema :=
  match source.lookup "$ref" with
  | some (.string text) => resolve (.ofText text) path
  | some _ => .malformed path .referenceNotString
  | none =>
      match source.lookup "type" with
      | some (.string "array") =>
          match h : source.lookup "items" with
          | some (.object items) => do
              have := Entries.sizeOf_members_lt h
              let items ← ofNode resolve (.object items) (.items path)
              return .array items {}
          | _ => .refuse path .itemsNotObject
      | some (.string "object") => ofObject resolve source path
      | some (.string name) =>
          match ScalarType.ofName? name with
          | some type => pure (.scalar type {})
          | none => .refuse path (.unknownType name)
      | some _ => .refuse path .typeNotString
      | none =>
          if source.has "enum" then .refuse path .enumWithoutType else .refuse path .noShape
termination_by 3 * sizeOf source + 2

/-- Translates an object: its properties, then the schema of its other values. -/
def ofObject (resolve : Reference → Path → Attempt Schema) (source : Entries Json) (path : Path) :
    Attempt Schema := do
  let required ← requiredNames source path
  let properties? ← propertiesOf resolve source path
  let values? ← valuesOf resolve source path
  return assemble required properties? values?
termination_by 3 * sizeOf source + 1

/-- Translates the properties of an object, if it has any to speak of. -/
def propertiesOf (resolve : Reference → Path → Attempt Schema) (source : Entries Json)
    (path : Path) : Attempt (Option (Entries Schema)) :=
  match h : source.lookup "properties" with
  | none => pure none
  | some (.object properties) =>
      have := Entries.sizeOf_members_lt h
      some <$> ofProperties resolve properties path
  | some _ => .malformed path .propertiesNotObject
termination_by 3 * sizeOf source

/-- Translates the schema of the other values of an object, if it has one. -/
def valuesOf (resolve : Reference → Path → Attempt Schema) (source : Entries Json) (path : Path) :
    Attempt (Option Schema) :=
  match h : source.lookup "additionalProperties" with
  | none => pure none
  | some (.object values) =>
      have := Entries.sizeOf_members_lt h
      some <$> ofNode resolve (.object values) (.values path)
  | some _ => .refuse path .valuesNotObject
termination_by 3 * sizeOf source

/-- Translates the properties of a node one by one and leaves out those that are refused. -/
def ofProperties (resolve : Reference → Path → Attempt Schema) (properties : Entries Json)
    (path : Path) : Attempt (Entries Schema) :=
  match properties with
  | [] => pure []
  | (name, node) :: rest => do
      let kept? ← (ofNode resolve node (.property path name)).orSkip
      let others ← ofProperties resolve rest path
      return kept?.toList.map (fun schema => (name, schema)) ++ others
termination_by 3 * sizeOf properties

end

end Schema

namespace Resource

/-- The schema node that stands for a resource: an object of its input properties. -/
def node (resource : Resource) : Json :=
  let required := resource.normalizedRequired
  .object ([("properties", .object resource.inputProperties)]
    ++ (if required.isEmpty then [] else [("required", .ofStrings required)])
    ++ [("type", .string "object")])

end Resource

namespace Document

/-- Translates what a reference leads to, at the path of the reference. One that leaves the
package has the fallback schema; one that is on the trail is cyclic.
-/
def resolve (doc : Document) (trail : List Reference) (reference : Reference) (path : Path) :
    Attempt Schema :=
  match reference with
  | .external _ => pure .fallback
  | reference =>
      if onTrail : reference ∈ trail then
        .refuse path (.cyclic reference)
      else
        match h : doc.target? reference with
        | some (.type (.object source)) =>
            have := unvisited_cons_lt (mem_references_of_target? h) onTrail
            Schema.ofNode (fun next path => doc.resolve (reference :: trail) next path)
              (.object source) path
        | some (.type _) => .malformed path (.typeNotObject reference)
        | some (.resource resource) =>
            have := unvisited_cons_lt (mem_references_of_target? h) onTrail
            Schema.ofNode (fun next path => doc.resolve (reference :: trail) next path)
              resource.node path
        | none =>
            match reference with
            | .resource _ => .malformed path (.unresolvedResource reference)
            | _ => .malformed path (.unresolvedType reference)
termination_by doc.unvisited trail

end Document

/-- The translated schema of a component and the paths that were left out. -/
structure Translation where
  schema : Schema
  skipped : List SkipIssue

/-- The warning lines of a translation, in order. -/
def Translation.warnings (translation : Translation) : List String :=
  translation.skipped.map SkipIssue.warning

/-- Why a component has no translation. -/
inductive TranslationError where
  | unsupported (construct : Unsupported)
  | malformed (component : String) (path : Path) (cause : Malformation)
  | nothingTranslatable (component : String) (skipped : List SkipIssue)

namespace TranslationError

/-- The wording of a translation error. -/
def message : TranslationError → String
  | .unsupported construct => construct.message
  | .malformed component path cause =>
      "schema component \"" ++ component ++ "\" path \"" ++ path.text ++ "\": " ++ cause.cause
  | .nothingTranslatable component _ =>
      "no translatable spec fields remain after skipping unsupported schema paths for component \""
        ++ component ++ "\""

/-- The paths that were left out before the translation failed, as far as the error tells. -/
def skipped : TranslationError → List SkipIssue
  | .nothingTranslatable _ skipped => skipped
  | _ => []

end TranslationError

namespace Document

/-- Translates a component: an object schema of its input properties. It fails if every property
was left out.
-/
def translate (doc : Document) (component : Component) : Except TranslationError Translation :=
  let attempt := Schema.ofProperties (doc.resolve []) component.resource.inputProperties .spec
  match attempt.outcome with
  | .error (.unsupported refusal) => .error (.unsupported (refusal.unsupported component.token))
  | .error (.malformed path cause) => .error (.malformed component.token path cause)
  | .ok properties =>
      let skipped := SkipIssue.sorted (attempt.skipped.map (·.issue component.token))
      if properties.isEmpty && !skipped.isEmpty then
        .error (.nothingTranslatable component.token skipped)
      else
        let required := component.resource.normalizedRequired.filter (properties.has ·)
        .ok ⟨.object (some properties) none required {}, skipped⟩

end Document

end ComponentCrd
