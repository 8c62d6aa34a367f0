import ComponentCrd.Proofs.Schema.PreflightMemory
import ComponentCrd.Proofs.Schema.Provenance
import ComponentCrd.Proofs.Schema.SchemaSources

/-! What the check of a whole document says about each of its resources. Most of what a resource
reaches was checked while something else in the document was, and is only remembered; but what is
remembered in the end leaves nothing to be checked behind any reference. So every resource passes
by itself. And since no reference of the document leads out of the package, the translation never
comes to a node that it can say nothing about.
-/

namespace ComponentCrd

namespace Preflight

-----------------------------------------------------------------------------------------
-- The references in a node
-----------------------------------------------------------------------------------------

/-- The reference that a step follows. -/
def Step.reference? : Step → Option Reference
  | .follow reference _ => some reference
  | .fail _ _ => none

/-- The references that steps follow, in order. -/
def followed (steps : List Step) : List Reference := steps.filterMap Step.reference?

/-- The references in a node and in the nodes below it. -/
def referencesIn (node : Json) : List Reference := followed (nodeSteps node)

theorem followed_append (first second : List Step)
    : followed (first ++ second) = followed first ++ followed second := by
  simp [followed]

/-- Steps follow the same references within another node. -/
theorem followed_within (inner : Path → Path) (steps : List Step)
    : followed (steps.map (.within inner)) = followed steps := by
  unfold followed
  rw [List.filterMap_map]
  congr 1
  funext step
  cases step <;> rfl

theorem referencesIn_of_not_object {node : Json} (scalar : node.isObject = false)
    : referencesIn node = [] := by
  rw [referencesIn, nodeSteps_of_not_object scalar]
  rfl

/-- The references in properties are those in each of them. -/
theorem followed_propertySteps (members : Entries Json)
    : followed (propertySteps members) = members.flatMap fun entry => referencesIn entry.2 := by
  induction members with
  | nil =>
      rw [propertySteps]
      rfl
  | cons entry rest ih =>
      rw [propertySteps_cons, followed_append, followed_within, ih, List.flatMap_cons]
      congr 1
      cases object : entry.2.isObject with
      | true => rfl
      | false =>
          rw [referencesIn_of_not_object object]
          rfl

/-- The references in input properties are those in each of them. -/
theorem followed_inputSteps (entries : Entries Json)
    : followed (inputSteps entries) = entries.flatMap fun entry => referencesIn entry.2 := by
  induction entries with
  | nil => rfl
  | cons entry rest ih =>
      rw [inputSteps, followed_append, followed_within, ih, List.flatMap_cons]
      rfl

/-- The references in an object are its own and those in its four kinds of nodes. -/
theorem referencesIn_object (source : Entries Json)
    : referencesIn (.object source)
      = followed (referenceSteps source)
        ++ (followed (propertiesSteps source)
          ++ (followed (childSteps source "items" .items .itemsNotObject)
            ++ followed (childSteps source "additionalProperties" .values .valuesNotObject))) := by
  rw [referencesIn, nodeSteps_object]
  simp only [followed_append]

variable {source : Entries Json}

theorem mem_referencesIn_own {text : String} (found : source.lookup "$ref" = some (.string text))
    : Reference.ofText text ∈ referencesIn (.object source) := by
  rw [referencesIn_object]
  refine List.mem_append_left _ ?_
  simp [referenceSteps, found, followed, Step.reference?]

theorem referencesIn_property {members : Entries Json} {entry : String × Json}
    (found : source.lookup "properties" = some (.object members)) (member : entry ∈ members)
    : referencesIn entry.2 ⊆ referencesIn (.object source) := by
  intro reference inside
  rw [referencesIn_object]
  refine List.mem_append_right _ (List.mem_append_left _ ?_)
  rw [propertiesSteps, found, followed_propertySteps]
  exact List.mem_flatMap_of_mem member inside

theorem referencesIn_items {items : Entries Json}
    (found : source.lookup "items" = some (.object items))
    : referencesIn (.object items) ⊆ referencesIn (.object source) := by
  intro reference inside
  rw [referencesIn_object]
  refine List.mem_append_right _ (List.mem_append_right _ (List.mem_append_left _ ?_))
  rw [childSteps, found, followed_within]
  exact inside

theorem referencesIn_values {values : Entries Json}
    (found : source.lookup "additionalProperties" = some (.object values))
    : referencesIn (.object values) ⊆ referencesIn (.object source) := by
  intro reference inside
  rw [referencesIn_object]
  refine List.mem_append_right _ (List.mem_append_right _ (List.mem_append_right _ ?_))
  rw [childSteps, found, followed_within]
  exact inside

/-- The references in the node of a resource are those in its input properties. -/
theorem referencesIn_resource (resource : Resource)
    : referencesIn resource.node
      = resource.inputProperties.flatMap fun entry => referencesIn entry.2 := by
  obtain ⟨source, same, own, properties, items, values, _⟩ := resource.node_eq
  rw [same, referencesIn_object, referenceSteps, own, propertiesSteps, properties, childSteps,
    items, childSteps, values, ← followed_propertySteps]
  simp [followed]

/-- The node and the nodes below it refer to nothing outside the package. -/
def Inward (node : Json) : Prop := ∀ reference ∈ referencesIn node, reference.isLocal

end Preflight

open Preflight

namespace Schema

-----------------------------------------------------------------------------------------
-- Schemas without freeform nodes
-----------------------------------------------------------------------------------------

/-- No node of the schema is freeform. -/
inductive Definite : Schema → Prop
  | scalar {type : ScalarType} {notes : Annotations} : Definite (.scalar type notes)
  | array {items : Schema} {notes : Annotations} (each : Definite items)
    : Definite (.array items notes)
  | object {properties? : Option (Entries Schema)} {values? : Option Schema}
    {required : List String} {notes : Annotations}
    (properties : ∀ entry ∈ properties?.getD [], Definite entry.2)
    (values : ∀ values, values? = some values → Definite values)
    : Definite (.object properties? values? required notes)

/-- Annotations make no node freeform. -/
theorem Definite.annotated {schema result : Schema} {source : Entries Json}
    (definite : schema.Definite) (annotates : schema.annotated source = .ok result)
    : result.Definite := by
  obtain ⟨notes, _, rfl⟩ := annotated_eq_ok.mp annotates
  cases definite with
  | scalar => exact .scalar
  | array each => exact .array each
  | object properties values => exact .object properties values

/-- A node that refers to nothing outside the package is translated to a schema without freeform
nodes.
-/
theorem inherited_definite : Inherited Inward Definite where
  property inward found _ member _ inside := inward _ (referencesIn_property found member inside)
  items inward found _ inside := inward _ (referencesIn_items found inside)
  values inward found _ inside := inward _ (referencesIn_values found inside)
  fallback inward found outside :=
    nomatch (inward _ (mem_referencesIn_own found)).symm.trans outside
  scalar _ := .scalar
  array definite := .array definite
  object _ _ kept values := .object kept.each values
  annotated _ definite annotates := definite.annotated annotates

-----------------------------------------------------------------------------------------
-- The JSON form of a schema without freeform nodes
-----------------------------------------------------------------------------------------

/-- Only a freeform node has the mark. -/
theorem mark_membersOf {type : SchemaType} {notes : Annotations}
    {values? items? properties? : Option Json} {required : List String} {freeform : Bool}
    : Entries.has (membersOf type notes values? items? properties? required freeform)
          Grammar.freeformMark
      = freeform := by
  unfold Entries.has
  rw [lookup_membersOf]
  cases freeform <;> simp [slots, List.lookup_cons, Grammar.freeformMark]

end Schema

namespace Grammar

/-- The second schema node stands directly below the first: it is one of its properties, its items,
or its other values. What a default or an enumeration holds is no node.
-/
inductive Below : Json → Json → Prop
  | property {members properties : Entries Json} {entry : String × Json}
    (found : members.lookup "properties" = some (.object properties)) (member : entry ∈ properties)
    : Below (.object members) entry.2
  | items {members : Entries Json} {node : Json} (found : members.lookup "items" = some node)
    : Below (.object members) node
  | values {members : Entries Json} {node : Json}
    (found : members.lookup "additionalProperties" = some node)
    : Below (.object members) node

end Grammar

namespace Schema

/-- The nodes below a schema without freeform nodes are such schemas. -/
theorem Definite.child {schema : Schema} {node : Json} (definite : schema.Definite)
    (step : Grammar.Below schema.toJson node)
    : ∃ next : Schema, next.Definite ∧ next.toJson = node := by
  generalize json : schema.toJson = root at step
  cases definite with
  | scalar =>
      rw [toJson] at json
      cases step with
      | property found | items found | values found =>
          cases json
          simp [lookup_membersOf, slots, List.lookup_cons] at found
  | array each =>
      rw [toJson] at json
      cases step with
      | property found | values found =>
          cases json
          simp [lookup_membersOf, slots, List.lookup_cons] at found
      | items found =>
          cases json
          rw [items_membersOf] at found
          exact ⟨_, each, Option.some.inj found⟩
  | @object properties? values? required notes properties values =>
      rw [toJson] at json
      cases step with
      | items found =>
          cases json
          simp [lookup_membersOf, slots, List.lookup_cons] at found
      | property found member =>
          cases json
          rw [properties_membersOf] at found
          cases properties? with
          | none => cases found
          | some named =>
              cases found
              obtain ⟨source, member, same⟩ := mem_entriesToJson member
              exact ⟨source.2, properties source member, same⟩
      | values found =>
          cases json
          rw [values_membersOf] at found
          cases values? with
          | none => cases found
          | some schema => exact ⟨schema, values schema rfl, Option.some.inj found⟩

/-- No node of a schema without freeform nodes has the mark. -/
theorem Definite.unmarked {schema : Schema} {members : Entries Json} (definite : schema.Definite)
    (way : Relation.ReflTransGen Grammar.Below schema.toJson (.object members))
    : members.has Grammar.freeformMark = false := by
  have reached
      : ∀ node, Relation.ReflTransGen Grammar.Below schema.toJson node
          → ∃ next : Schema, next.Definite ∧ next.toJson = node := by
    intro node way
    induction way with
    | refl => exact ⟨schema, definite, rfl⟩
    | tail _ step ih =>
        obtain ⟨next, definite, rfl⟩ := ih
        exact definite.child step
  obtain ⟨next, definite, same⟩ := reached _ way
  cases definite with
  | scalar | array _ | object _ _ =>
      rw [toJson] at same
      cases same
      exact mark_membersOf

end Schema

namespace Document

variable {doc : Document}

-----------------------------------------------------------------------------------------
-- Documents that refer to nothing outside the package
-----------------------------------------------------------------------------------------

/-- Nothing in the types and in the input properties of the document refers to anything outside the
package.
-/
structure SelfContained (doc : Document) : Prop where
  types : ∀ entry ∈ doc.types, Inward entry.2
  inputs
    : ∀ entry ∈ doc.resources, ∀ input ∈ entry.2.inputProperties, Inward input.2

/-- The nodes behind the references of such a document refer to nothing outside the package. -/
theorem SelfContained.standIn (contained : doc.SelfContained) {reference : Reference} {node : Json}
    (found : doc.standIn? reference = some node)
    : Inward node := by
  cases reference with
  | external text => cases isLocal_of_standIn? found
  | type token =>
      cases entry : doc.type? token with
      | none => simp [standIn?, target?, entry] at found
      | some value =>
          have inward := contained.types _ (Entries.mem_of_lookup entry)
          cases value with
          | object source =>
              simp only [standIn?, target?, entry, Option.map_some, Option.some.injEq] at found
              exact found ▸ inward
          | null | bool _ | number _ | string _ | array _ =>
              simp [standIn?, target?, entry] at found
  | resource token =>
      cases entry : doc.resource? token with
      | none => simp [standIn?, target?, entry] at found
      | some resource =>
          simp only [standIn?, target?, entry, Option.map_some, Option.some.injEq] at found
          subst found
          intro reference inside
          rw [referencesIn_resource] at inside
          obtain ⟨input, member, inside⟩ := List.mem_flatMap.mp inside
          exact contained.inputs _ (Entries.mem_of_lookup entry) input member reference inside

/-- The translation of a resource of such a document has no freeform nodes. -/
theorem SelfContained.definite_translate (contained : doc.SelfContained)
    {entry : String × Resource} (member : entry ∈ doc.resources) {translation : Translation}
    (translated : doc.translate ⟨entry.1, entry.2⟩ = .ok translation)
    : translation.schema.Definite := by
  obtain ⟨kept, required, same, definite, _⟩ :=
    Schema.inherited_definite.object_of_translate contained.standIn (contained.inputs entry member)
      translated
  rw [same]
  exact .object definite nofun

/-- Every place that the translation of a resource of such a document visits refers to nothing
outside the package, by induction over the way there.
-/
theorem SelfContained.inward_of_visits (contained : doc.SelfContained)
    {entry : String × Resource} (member : entry ∈ doc.resources) {place : Place}
    (visits : doc.Visits ⟨entry.1, entry.2⟩ place)
    : Inward place.node := by
  obtain ⟨input, inMember, way⟩ := visits
  induction way with
  | refl => exact contained.inputs entry member input inMember
  | tail _ step ih =>
      cases step with
      | behind _ found => exact contained.standIn found
      | below step =>
          cases step with
          | items _ found => exact fun _ inside => ih _ (referencesIn_items found inside)
          | property _ found member =>
              exact fun _ inside => ih _ (referencesIn_property found member inside)
          | values _ _ found => exact fun _ inside => ih _ (referencesIn_values found inside)

-----------------------------------------------------------------------------------------
-- What the check of a whole document leaves behind
-----------------------------------------------------------------------------------------

/-- A reference that the check of a whole document leaves nothing behind is one inside the package,
and nothing is left behind it for the check of a component either.
-/
theorem Answered.toComponent {known : Reference → Prop} {reference : Reference}
    (answered : Answered .document known reference)
    : reference.isLocal ∧ Answered .component known reference := by
  refine ⟨?_, fun _ => rfl, answered.inside⟩
  cases inside : reference.isLocal with
  | true => rfl
  | false => cases answered.outside inside

theorem StepsAnswered.toComponent {known : Reference → Prop} {steps : List Step}
    (answered : StepsAnswered .document known steps)
    : (∀ reference ∈ followed steps, reference.isLocal)
      ∧ StepsAnswered .component known steps := by
  constructor
  · intro reference inside
    obtain ⟨step, member, follows⟩ := List.mem_filterMap.mp inside
    obtain ⟨next, place, rfl, answered⟩ := answered step member
    obtain rfl : next = reference := Option.some.inj follows
    exact answered.toComponent.1
  · intro step member
    obtain ⟨reference, place, same, answered⟩ := answered step member
    exact ⟨reference, place, same, answered.toComponent.2⟩

theorem Remembered.toComponent {passed : List Reference}
    (remembered : doc.Remembered .document [] passed)
    : doc.Remembered .component [] passed :=
  fun reference member => (remembered reference member).toComponent.2

/-- Named checks that pass in turn leave nothing behind any of their steps, by induction over their
list: the memory of one check is kept by the next.
-/
theorem answered_of_inTurn {mode : Mode} {walks : List (String × List Step)}
    {before after : List Reference} (remembered : doc.Remembered mode [] before)
    (passes
      : inTurn (walks.map fun walk => (walk.1, perform (doc.follow mode []) .spec walk.2)) before
        = .ok after)
    : before ⊆ after ∧ doc.Remembered mode [] after
      ∧ ∀ walk ∈ walks, StepsAnswered mode (Seen [] after) walk.2 := by
  induction walks generalizing before with
  | nil =>
      obtain rfl : before = after := Except.ok.inj passes
      exact ⟨List.Subset.refl _, remembered, fun _ member => absurd member List.not_mem_nil⟩
  | cons walk rest ih =>
      have walked := repeats_perform (repeats_follow doc mode []) .spec walk.2 before remembered
      simp only [List.map_cons, inTurn] at passes
      generalize perform (doc.follow mode []) .spec walk.2 before = result at walked passes
      generalize perform (doc.retrace mode []) .spec walk.2 = again at walked
      cases walked with
      | stops path violation => cases passes
      | passes included remembered answered =>
          obtain ⟨further, kept, others⟩ := ih remembered passes
          refine ⟨List.Subset.trans included further, kept, fun other member => ?_⟩
          rcases List.mem_cons.mp member with rfl | later
          · exact answered.mono fun _ seen => seen.mono further
          · exact others other later

/-- A document that passes leaves nothing to be checked behind any of its resources and types. -/
theorem answered_of_preflightAll (passes : doc.preflightAll = .ok ())
    : ∃ passed, doc.Remembered .document [] passed
        ∧ ∀ walk ∈ doc.walks, StepsAnswered .document (Seen [] passed) walk.2 := by
  unfold preflightAll at passes
  simp only [checks_eq_walks] at passes
  cases checked : inTurn (doc.walks.map fun walk =>
      (walk.1, perform (doc.follow .document []) .spec walk.2)) [] with
  | error error => simp [checked, Except.map] at passes
  | ok passed =>
      obtain ⟨_, remembered, answered⟩ := answered_of_inTurn remembered_nil checked
      exact ⟨passed, remembered, answered⟩

/-- A document that passes refers to nothing outside the package. -/
theorem selfContained_of_preflightAll (passes : doc.preflightAll = .ok ())
    : doc.SelfContained := by
  obtain ⟨passed, _, answered⟩ := answered_of_preflightAll passes
  constructor
  · intro entry member
    have walk : (entry.1, nodeSteps entry.2) ∈ doc.walks :=
      List.mem_append_right _ (List.mem_map_of_mem member)
    exact (answered _ walk).toComponent.1
  · intro entry member input inMember reference inside
    have walk : (entry.1, inputSteps entry.2.inputProperties) ∈ doc.walks :=
      List.mem_append_left _ (List.mem_map_of_mem member)
    refine (answered _ walk).toComponent.1 reference ?_
    rw [followed_inputSteps]
    exact List.mem_flatMap_of_mem inMember inside

/-- A component passes if the steps of its input properties leave nothing behind: going once more
into everything they lead to finds nothing, and the check gives the same answer.
-/
theorem preflight_of_answered {passed : List Reference} {component : Component}
    (remembered : doc.Remembered .component [] passed)
    (answered
      : StepsAnswered .component (Seen [] passed) (inputSteps component.resource.inputProperties))
    : doc.preflight component = .ok () := by
  have again
      : perform (doc.retrace .component []) .spec (inputSteps component.resource.inputProperties)
        = pass :=
    perform_eq_pass .spec answered fun reference path answered =>
      retrace_eq_pass remembered (List.Subset.refl _) path answered
  have walked :=
    repeats_perform (repeats_follow doc .component []) .spec
      (inputSteps component.resource.inputProperties) [] remembered_nil
  unfold preflight
  rw [inputs_eq_perform]
  rw [again] at walked
  generalize ended : pass = after at walked
  generalize perform (doc.follow .component []) .spec _ [] = result at walked ⊢
  cases walked with
  | stops path violation => cases congrFun ended []
  | passes => rfl

-----------------------------------------------------------------------------------------
-- Self-sufficient documents
-----------------------------------------------------------------------------------------

/-- The document needs nothing from outside the package: each of its resources passes the check by
itself as the selected component, the nodes that the translation of any of them visits, whether it
succeeds or not, refer only to the package, and a translation that succeeds leaves no node of the
schema open to what the schema does not say.
-/
structure SelfSufficient (doc : Document) : Prop where
  passes : ∀ entry ∈ doc.resources, doc.preflight ⟨entry.1, entry.2⟩ = .ok ()
  inside
    : ∀ entry ∈ doc.resources, ∀ source path text,
        doc.Visits ⟨entry.1, entry.2⟩ ⟨.object source, path⟩
        → source.lookup "$ref" = some (.string text) → (Reference.ofText text).isLocal
  definite
    : ∀ entry ∈ doc.resources, ∀ translation,
        doc.translate ⟨entry.1, entry.2⟩ = .ok translation → ∀ members : Entries Json,
        Relation.ReflTransGen Grammar.Below translation.schema.toJson (.object members)
        → members.has Grammar.freeformMark = false

/-- The check of the whole document is the stronger one: a document that passes is self-sufficient.
-/
theorem selfSufficient_of_preflightAll (passes : doc.preflightAll = .ok ())
    : doc.SelfSufficient where
  passes entry member := by
    obtain ⟨passed, remembered, answered⟩ := answered_of_preflightAll passes
    have walk : (entry.1, inputSteps entry.2.inputProperties) ∈ doc.walks :=
      List.mem_append_left _ (List.mem_map_of_mem member)
    exact preflight_of_answered remembered.toComponent (answered _ walk).toComponent.2
  inside entry member source path text visits found := by
    have contained := selfContained_of_preflightAll passes
    exact contained.inward_of_visits member visits _ (mem_referencesIn_own found)
  definite entry member translation translated members way :=
    ((selfContained_of_preflightAll passes).definite_translate member translated).unmarked way

/-- Two resources that share a type, the second of which refers to the first, and a type that leads
back to itself.
-/
def sharingDocument : Document where
  resources := [
    ("p:i:Store", {
      inputProperties := [
        ("leaf", .object [("$ref", .string "#/types/p:i:Leaf")]),
        ("tags", .object [
          ("additionalProperties", .object [("type", .string "string")]),
          ("type", .string "object")])] }),
    ("p:i:Thing", {
      isComponent := true
      inputProperties := [
        ("leaf", .object [("$ref", .string "#/types/p:i:Leaf")]),
        ("store", .object [("$ref", .string "#/resources/p:i:Store")])] })]
  types := [
    ("p:i:Leaf", .object [("type", .string "string")]),
    ("p:i:Tree", .object [
      ("items", .object [("$ref", .string "#/types/p:i:Tree")]),
      ("type", .string "array")])]

/-- Shared types and types that lead back to themselves pass, and the document is self-sufficient.
-/
theorem sharingDocument_selfSufficient
    : sharingDocument.preflightAll = .ok () ∧ sharingDocument.SelfSufficient := by
  have ok : sharingDocument.preflightAll.isOk := by decide +kernel
  obtain ⟨_, passes⟩ := Except.exists_of_isOk ok
  exact ⟨passes, selfSufficient_of_preflightAll passes⟩

/-- Both resources of the document are translated. -/
example
    : (sharingDocument.resources.map fun entry =>
        (sharingDocument.translate ⟨entry.1, entry.2⟩).isOk) = [true, true] := by
  decide +kernel

end Document

end ComponentCrd
