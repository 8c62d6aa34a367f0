import ComponentCrd.Proofs.Schema.PreflightExactness
import ComponentCrd.Proofs.Schema.Provenance
import ComponentCrd.Proofs.Schema.SchemaSources

/-! A translated schema as the inputs of a component of its own, in a document with nothing else.
The check of shapes meets nothing but schemas there, and the translation gives the schema back,
without the marks of its freeform nodes.
-/

namespace ComponentCrd

-----------------------------------------------------------------------------------------
-- A schema as the inputs of a component
-----------------------------------------------------------------------------------------

/-- The member of an object, if the value is one and has it. -/
def Json.member? (name : String) (value : Json) : Option Json :=
  value.members?.bind (·.lookup name)

/-- The component whose input properties are the properties of a schema node, and whose required
inputs are the names that the node requires, if there are any.
-/
def Component.ofNode (token : String) (node : Json) : Component where
  token := token
  resource := {
    isComponent := true
    inputProperties := ((node.member? "properties").bind Json.members?).getD []
    requiredInputs := ((node.member? "required").bind Json.strings?).getD [] }

/-- The document that has one resource and nothing else. -/
def Document.ofComponent (name version : String) (component : Component) : Document where
  name := name
  version := version
  resources := [(component.token, component.resource)]

/-- The component of an object takes its properties and its required names. -/
theorem Component.ofNode_toJson (token : String) {properties : Entries Schema}
    {values? : Option Schema} {required : List String} {notes : Annotations}
    : Component.ofNode token (Schema.object (some properties) values? required notes).toJson
      = { token := token
          resource := {
            isComponent := true
            inputProperties := Schema.entriesToJson properties
            requiredInputs := required } } := by
  have inputs
      : (Schema.object (some properties) values? required notes).toJson.member? "properties"
        = some (.object (Schema.entriesToJson properties)) := by
    rw [Schema.toJson]
    exact Schema.properties_membersOf
  have requires
      : (Schema.object (some properties) values? required notes).toJson.member? "required"
        = if required.isEmpty then none else some (.ofStrings required) := by
    rw [Schema.toJson]
    exact Schema.required_membersOf
  simp only [ofNode, inputs, requires, Json.strings?_leftOut]
  rfl

-----------------------------------------------------------------------------------------
-- The check of shapes
-----------------------------------------------------------------------------------------

/-- The node of the place is the JSON form of a schema. -/
def Place.IsSchema (place : Place) : Prop := ∃ schema : Schema, place.node = schema.toJson

namespace Document

variable {doc : Document}

/-- Schemas lead to schemas only: to those of their properties, items and other values. -/
theorem closedUnderLeads_isSchema (doc : Document) : doc.ClosedUnderLeads Place.IsSchema := by
  rintro place next ⟨schema, same⟩ step
  obtain ⟨source, object, contained⟩ := schema.selfContained_toJson
  rw [object] at same
  cases step with
  | property found member =>
      cases same
      exact contained.property found member
  | items found =>
      cases same
      exact contained.items _ found
  | values found =>
      cases same
      exact contained.values _ found
  -- No step leads through a reference, as a schema has none.
  | type found =>
      cases same
      exact nomatch contained.own.symm.trans found
  | resource found =>
      cases same
      exact nomatch contained.own.symm.trans found

/-- A schema has no flaw, also where references must not leave the package. -/
theorem Flaw.not_isSchema {mode : Preflight.Mode} {place : Place} {breach : Preflight.Breach}
    (flaw : doc.Flaw mode place breach)
    : ¬ place.IsSchema := by
  rintro ⟨schema, same⟩
  obtain ⟨source, object, contained⟩ := schema.selfContained_toJson
  rw [object] at same
  have child {value : Json} (schema : ∃ schema : Schema, value = schema.toJson)
      : value.isObject := by
    obtain ⟨schema, rfl⟩ := schema
    obtain ⟨source, object, _⟩ := schema.selfContained_toJson
    exact Json.isObject_iff.mpr ⟨source, object⟩
  cases flaw with
  | node scalar =>
      cases same
      cases scalar
  | properties found scalar =>
      cases same
      obtain ⟨properties, rfl⟩ := contained.properties _ found
      cases scalar
  | property found member scalar =>
      cases same
      exact nomatch (child (contained.property found member)).symm.trans scalar
  | items found scalar =>
      cases same
      exact nomatch (child (contained.items _ found)).symm.trans scalar
  | values found scalar =>
      cases same
      exact nomatch (child (contained.values _ found)).symm.trans scalar
  | reference found | unresolvedType found | typeNotObject found | unresolvedResource found
  | outside _ found =>
      cases same
      exact nomatch contained.own.symm.trans found

/-- Input properties that are schemas pass, whether a component or a document is checked. -/
theorem inputs_pass (doc : Document) (mode : Preflight.Mode) (properties : Entries Schema)
    (passed : List Reference)
    : ∃ after,
        Preflight.inputs (doc.follow mode []) (Schema.entriesToJson properties) .spec passed
        = .ok after := by
  have closed := closedUnderLeads_isSchema doc
  have blames
      : doc.Blames mode Place.IsSchema
          (Preflight.inputs (doc.follow mode []) (Schema.entriesToJson properties) .spec) := by
    refine blames_inputs fun entry member => ?_
    obtain ⟨named, _, same⟩ := Schema.mem_entriesToJson member
    exact blames_node closed (blames_follow closed mode []) entry.2 _ ⟨named.2, same.symm⟩
  cases checked
    : Preflight.inputs (doc.follow mode []) (Schema.entriesToJson properties) .spec passed with
  | ok after => exact ⟨after, rfl⟩
  | error breach =>
      obtain ⟨place, schema, flaw⟩ := blames passed breach checked
      exact (flaw.not_isSchema schema).elim

/-- The check of a document with one resource is the check of its input properties. -/
theorem preflightAll_ofComponent (name version : String) (component : Component)
    : (ofComponent name version component).preflightAll
      = match Preflight.inputs ((ofComponent name version component).follow .document [])
            component.resource.inputProperties .spec [] with
        | .ok _ => .ok ()
        | .error breach => .error ⟨component.token, breach⟩ := by
  change (inTurn [(component.token, _)] []).map _ = _
  rw [inTurn]
  cases Preflight.inputs ((ofComponent name version component).follow .document [])
    component.resource.inputProperties .spec [] <;> rfl

-----------------------------------------------------------------------------------------
-- The translation of a translation
-----------------------------------------------------------------------------------------

variable {component : Component} {translation : Translation}

/-- A translated component is an object of sound properties that were kept. -/
theorem sound_of_translate (translated : doc.translate component = .ok translation)
    : ∃ properties required,
        translation.schema = .object (some properties) none required {}
        ∧ translation.schema.Sound := by
  obtain ⟨kept, required, same, sound, _, increasing, named⟩ :=
    Schema.inherited_sound.object_of_translate (fun _ => trivial) (fun _ _ => trivial) translated
  refine ⟨kept, required, same, ?_⟩
  rw [same]
  exact .object sound nofun increasing named (Schema.admittedBy_empty _)

/-- The component of a sound object is translated to the object without the marks of its nodes, and
nothing is passed over.
-/
theorem translate_ofNode {properties : Entries Schema} {required : List String} {token : String}
    (sound : (Schema.object (some properties) none required {}).Sound)
    (scalars : (Schema.object (some properties) none required {}).scalarEnums)
    : doc.translate
          (Component.ofNode token (Schema.object (some properties) none required {}).toJson)
      = .ok ⟨(Schema.object (some properties) none required {}).unmarked, []⟩ := by
  obtain ⟨each, increasing, kept⟩
      : (∀ entry ∈ properties, entry.2.Sound) ∧ required.Pairwise (· < ·)
        ∧ ∀ name ∈ required, Entries.has properties name := by
    cases sound with
    | object each _ increasing kept => exact ⟨each, increasing, kept⟩
  simp only [Schema.scalarEnums, Bool.and_eq_true] at scalars
  have inputs
      : Schema.ofProperties (doc.resolve []) (Schema.entriesToJson properties) .spec
        = pure (Schema.unmarkedEntries properties) := by
    refine Schema.ofProperties_entriesToJson fun entry member => ?_
    exact Schema.ofNode_toJson (each entry member) (Schema.scalarEnums_of_mem scalars.1.2 member)
  rw [Component.ofNode_toJson]
  have attempt
      : doc.attemptInputs ⟨token, ⟨true, Schema.entriesToJson properties, required⟩⟩
        = pure (Schema.unmarkedEntries properties) :=
    inputs
  have nothing : doc.issues ⟨token, ⟨true, Schema.entriesToJson properties, required⟩⟩ = [] := by
    rw [issues, attempt]
    rfl
  rw [translate_of_inputs (congrArg Attempt.outcome attempt), nothing]
  simp only [List.isEmpty_nil, Bool.not_true, Bool.and_false, Bool.false_eq_true, if_false,
    Resource.normalizedRequired, sortedNames_of_increasing increasing,
    Schema.filter_required kept]
  rfl

end Document

/-- The component of a translated schema. -/
def Translation.component (translation : Translation) (token : String) : Component :=
  .ofNode token translation.schema.toJson

/-- The document with the component of a translated schema alone. -/
def Translation.document (translation : Translation) (name version token : String) : Document :=
  .ofComponent name version (translation.component token)

/-- What becomes of a translated schema that is made a component of its own, in a document of any
name and version and under any token: it is the one to work on, it passes both checks of shapes, and
if its nodes allow scalars only, it is translated to itself without the marks of freeform nodes,
with nothing left out.
-/
structure Translation.Stable (translation : Translation) (name version token : String) : Prop where
  selected
    : ∀ requested, requested = "" ∨ requested = token
        → (translation.document name version token).select requested
          = .ok (translation.component token)
  passes
    : (translation.document name version token).preflight (translation.component token) = .ok ()
  passesAll : (translation.document name version token).preflightAll = .ok ()
  translates
    : translation.schema.scalarEnums
        → ∃ again,
            (translation.document name version token).translate (translation.component token)
              = .ok again
            ∧ again.skipped = []
            ∧ again.schema.toJson = Grammar.unmarked translation.schema.toJson

namespace Document

/-- Translated schemas are stable. Witness: the schema has no references, so the check finds nothing
but schemas, and every shape that a translation yields is translated to itself.
-/
theorem stable_of_translate {doc : Document} {component : Component} {translation : Translation}
    (translated : doc.translate component = .ok translation) (name version token : String)
    : translation.Stable name version token := by
  obtain ⟨properties, required, object, sound⟩ := sound_of_translate translated
  have component
      : translation.component token
        = ⟨token, ⟨true, Schema.entriesToJson properties, required⟩⟩ := by
    rw [Translation.component, object, Component.ofNode_toJson]
  constructor
  case selected =>
    intro requested asked
    by_cases empty : requested = ""
    · simp [Translation.document, ofComponent, select, components, component, empty]
    · obtain rfl := asked.resolve_left empty
      simp [Translation.document, ofComponent, select, components, resource?, component, empty]
  case passes =>
    obtain ⟨after, passes⟩ := inputs_pass _ .component properties []
    rw [preflight, component, passes]
  case passesAll =>
    obtain ⟨after, passes⟩ := inputs_pass _ .document properties []
    rw [Translation.document, preflightAll_ofComponent, component, passes]
  case translates =>
    intro scalars
    rw [object] at sound scalars
    have again
        : (translation.document name version token).translate (translation.component token)
          = .ok ⟨translation.schema.unmarked, []⟩ := by
      rw [Translation.component, object]
      exact translate_ofNode sound scalars
    exact ⟨_, again, rfl, Schema.toJson_unmarked translation.schema⟩

/-- Annotated references, a freeform node and a required property survive another translation. -/
theorem annotatedComponent_stable
    : ∃ translation,
        annotatedDocument.translate annotatedComponent = .ok translation
        ∧ translation.schema.scalarEnums
        ∧ translation.Stable "p" "1.0.0" "p:i:Again" := by
  have scalars
      : (annotatedDocument.translate annotatedComponent).toOption.any (·.schema.scalarEnums) := by
    decide +kernel
  cases translated : annotatedDocument.translate annotatedComponent with
  | ok translation =>
      rw [translated] at scalars
      exact ⟨translation, rfl, scalars, stable_of_translate translated "p" "1.0.0" "p:i:Again"⟩
  | error error =>
      rw [translated] at scalars
      cases scalars

end Document

end ComponentCrd
