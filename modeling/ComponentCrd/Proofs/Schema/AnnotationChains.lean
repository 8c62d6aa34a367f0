import ComponentCrd.Proofs.Schema.ReferenceExpansion
import ComponentCrd.Proofs.Schema.Retranslation

/-! Annotations along a chain of references. A node may annotate what its reference leads to, which
may be a reference with annotations of its own. The shape is that of the node at the far end of the
chain, whatever the nodes before it say about one, and each annotation is that of the nearest node
that has it, while every enumeration on the way is checked against the type at the far end.
-/

namespace ComponentCrd

-----------------------------------------------------------------------------------------
-- Flattened enumerations
-----------------------------------------------------------------------------------------

namespace Annotations

/-- The value that an entry of an enumeration stands for. -/
inductive Stands : Json → Json → Prop
  | named {members value} (found : members.lookup "value" = some value)
    : Stands (.object members) value
  | scalar {value} (scalar : value.isScalar) : Stands value value

/-- The second value is the list of what the entries of the first one stand for, in their order and
as often as they occur.
-/
inductive Flattens : Json → Json → Prop
  | list {entries values} (each : List.Forall₂ Stands entries values)
    : Flattens (.array entries) (.array values)

theorem stands_of_enumValue {entry value : Json} (reads : enumValue entry = .ok value)
    : Stands entry value := by
  rcases enumValue_eq_ok.mp reads with ⟨members, rfl, found⟩ | ⟨scalar, rfl⟩
  · exact .named found
  · exact .scalar scalar

/-- Values that are read are the flattened entries. -/
theorem flattens_of_enumValues {raw : Json} {values : List Json}
    (reads : enumValues raw = .ok values)
    : Flattens raw (.array values) := by
  cases raw with
  | array entries =>
      exact .list ((Except.forall₂_of_mapM reads).imp fun _ _ => stands_of_enumValue)
  | null | bool _ | number _ | string _ | object _ => cases reads

-----------------------------------------------------------------------------------------
-- Annotations in layers
-----------------------------------------------------------------------------------------

/-- The annotations are those of the nodes, each one that of the first node that has it, and absent
if no node has it. The enumerations of all nodes fit the type, also those that are hidden.
-/
structure Layered (nodes : List (Entries Json)) (type : SchemaType)
    (description? default? enum? : Option Json) : Prop where
  description : description? = nodes.findSome? (·.lookup "description")
  default : default? = nodes.findSome? (·.lookup "default")
  enum : Option.Rel Flattens (nodes.findSome? (·.lookup "enum")) enum?
  checked
    : ∀ source ∈ nodes, ∀ raw, source.lookup "enum" = some raw
        → ∃ values, Flattens raw (.array values) ∧ ∀ value ∈ values, value.Fits type

/-- The annotations of a schema are those of the nodes. -/
def LayeredBy (nodes : List (Entries Json)) (type : SchemaType) (notes : Annotations) : Prop :=
  Layered nodes type (notes.description?.map .string) notes.default? (notes.enum?.map .array)

variable {nodes : List (Entries Json)} {source : Entries Json} {type : SchemaType}
  {before after : Annotations}

theorem layeredBy_nil (type : SchemaType) : LayeredBy [] type {} :=
  ⟨rfl, rfl, .none, nofun⟩

theorem map_string_of_describe? {before? after? : Option String}
    (described : describe? source before? = .ok after?)
    : after?.map .string = (source.lookup "description").or (before?.map .string) := by
  unfold describe? at described
  split at described
  · next absent =>
      obtain rfl := Except.ok.inj described
      rw [absent, Option.none_or]
  · next text found =>
      obtain rfl := Except.ok.inj described
      rw [found]
      rfl
  · cases described

theorem findSome?_cons_or {name : String}
    : (source :: nodes).findSome? (·.lookup name)
      = (source.lookup name).or (nodes.findSome? (·.lookup name)) := by
  rw [List.findSome?_cons]
  cases source.lookup name <;> rfl

/-- Annotations of one more node hide those that are there. -/
theorem LayeredBy.update (layered : LayeredBy nodes type before)
    (updated : update source type before = .ok after)
    : LayeredBy (source :: nodes) type after := by
  obtain ⟨described, defaulted, enumerated⟩ := update_eq_ok.mp updated
  have description
      : after.description?.map .string
        = (source :: nodes).findSome? (·.lookup "description") := by
    rw [map_string_of_describe? described, findSome?_cons_or, ← layered.description]
  have default : after.default? = (source :: nodes).findSome? (·.lookup "default") := by
    rw [defaulted, findSome?_cons_or, ← layered.default]
  -- A node with no enumeration leaves the one that is there, and adds none to be checked.
  rcases enumerated with ⟨absent, same⟩ | ⟨raw, values, found, passes, same⟩
  · have enum
        : Option.Rel Flattens ((source :: nodes).findSome? (·.lookup "enum"))
            (after.enum?.map .array) := by
      rw [findSome?_cons_or, absent, Option.none_or, same]
      exact layered.enum
    refine ⟨description, default, enum, List.forall_mem_cons.mpr ⟨?_, layered.checked⟩⟩
    intro raw found
    cases absent.symm.trans found
  · obtain ⟨reads, admitted⟩ := checkedEnum_eq_ok.mp passes
    have flattens := flattens_of_enumValues reads
    have enum
        : Option.Rel Flattens ((source :: nodes).findSome? (·.lookup "enum"))
            (after.enum?.map .array) := by
      rw [findSome?_cons_or, found, Option.some_or, same]
      exact .some flattens
    refine ⟨description, default, enum, List.forall_mem_cons.mpr ⟨?_, layered.checked⟩⟩
    intro other again
    obtain rfl := Option.some.inj (found.symm.trans again)
    exact ⟨values, flattens, admitted⟩

end Annotations

-----------------------------------------------------------------------------------------
-- Schemas with other annotations
-----------------------------------------------------------------------------------------

namespace Schema

/-- The names of the members that annotate a node. -/
def annotationNames : List String := ["description", "default", "enum"]

variable {schema : Schema} {notes other : Annotations}

theorem type_withNotes : (schema.withNotes notes).type = schema.type := by
  cases schema <;> rfl

theorem notes_withNotes : (schema.withNotes notes).notes = notes := by
  cases schema <;> rfl

theorem withNotes_withNotes
    : (schema.withNotes notes).withNotes other = schema.withNotes other := by
  cases schema <;> rfl

theorem withNotes_notes : schema.withNotes schema.notes = schema := by
  cases schema <;> rfl

/-- A schema with any annotations has the same members beside them. -/
theorem toJson_withNotes (schema : Schema)
    : ∃ values? items? properties? required freeform, ∀ notes,
        (schema.withNotes notes).toJson
        = .object
            (membersOf schema.type notes values? items? properties? required freeform) := by
  cases schema <;> exact ⟨_, _, _, _, _, fun _ => by rw [withNotes, toJson, Schema.type]⟩

/-- The members that annotate a schema are its annotations. -/
theorem annotations_withNotes
    : (schema.withNotes notes).toJson.member? "description" = notes.description?.map .string
      ∧ (schema.withNotes notes).toJson.member? "default" = notes.default?
      ∧ (schema.withNotes notes).toJson.member? "enum" = notes.enum?.map .array := by
  obtain ⟨_, _, _, _, _, object⟩ := schema.toJson_withNotes
  rw [object]
  exact ⟨lookup_membersOf "description", lookup_membersOf "default", lookup_membersOf "enum"⟩

/-- Other members do not depend on annotations. -/
theorem member?_withNotes {name : String} (outside : name ∉ annotationNames)
    : (schema.withNotes notes).toJson.member? name = schema.toJson.member? name := by
  obtain ⟨values?, items?, properties?, required, freeform, object⟩ := schema.toJson_withNotes
  have own := object schema.notes
  rw [withNotes_notes] at own
  simp only [annotationNames, List.mem_cons, List.not_mem_nil, or_false, not_or] at outside
  obtain ⟨noDescription, noDefault, noEnum⟩ := outside
  rw [object, own]
  change List.lookup name _ = List.lookup name _
  simp only [lookup_membersOf, slots, List.lookup_cons, beq_eq_false_iff_ne.mpr noDescription,
    beq_eq_false_iff_ne.mpr noDefault, beq_eq_false_iff_ne.mpr noEnum]

/-- A node that is translated has the shape that it is translated to, annotated by the node. -/
theorem ofNode_eq_ok {resolve : Reference → Path → Attempt Schema} {source : Entries Json}
    {path : Path} {result : Schema}
    (ok : (ofNode resolve (.object source) path).outcome = .ok result)
    : ∃ shape notes,
        (ofShape resolve source path).outcome = .ok shape
        ∧ Annotations.update source shape.type shape.notes = .ok notes
        ∧ shape.withNotes notes = result := by
  cases free : Keyword.firstIn? source with
  | some keyword =>
      rw [ofNode_of_keyword resolve path free] at ok
      cases ok
  | none =>
      rw [ofNode_of_no_keyword resolve path free] at ok
      obtain ⟨shape, shaped, ok⟩ := Attempt.outcome_bind_eq_ok.mp ok
      cases annotated : shape.annotated source with
      | error cause =>
          rw [annotated] at ok
          cases ok
      | ok schema =>
          rw [annotated] at ok
          obtain rfl := Except.ok.inj ok
          obtain ⟨notes, updated, same⟩ := annotated_eq_ok.mp annotated
          exact ⟨shape, notes, shaped, updated, same⟩

end Schema

namespace Document

open Schema

-----------------------------------------------------------------------------------------
-- Chains of references
-----------------------------------------------------------------------------------------

/-- The node has a reference into the package, with the next node behind it. -/
def LeadsTo (doc : Document) (source next : Entries Json) : Prop :=
  ∃ text, source.lookup "$ref" = some (.string text)
    ∧ doc.standIn? (.ofText text) = some (.object next)

/-- The node has no reference, or one that leaves the package. -/
def Ends (source : Entries Json) : Prop :=
  source.lookup "$ref" = none
  ∨ ∃ text, source.lookup "$ref" = some (.string text) ∧ (Reference.ofText text).isLocal = false

/-- The nodes are those that references lead through, from the first to the last one, which no
reference into the package leads on from.
-/
inductive Chain (doc : Document) : Entries Json → List (Entries Json) → Entries Json → Prop
  | last {source} (ends : Ends source) : doc.Chain source [source] source
  | link {source next nodes last} (leads : doc.LeadsTo source next)
    (chain : doc.Chain next nodes last)
    : doc.Chain source (source :: nodes) last

variable {doc : Document} {trail : List Reference} {path : Path} {first last : Entries Json}
  {nodes : List (Entries Json)}

/-- What a node at the end of a chain is translated to: a shape without annotations, of the type
that the node has, or the fallback for what is outside the package.
-/
structure EndShape (source : Entries Json) (shape : Schema) : Prop where
  typed : source.lookup "$ref" = none → source.lookup "type" = some (.string shape.type.name)
  fallback : source.lookup "$ref" ≠ none → shape = .fallback
  bare : shape.notes = {}

/-- A shape without annotations is one for a node that has its type and no reference. -/
theorem EndShape.of_type {source : Entries Json} {shape : Schema}
    (own : source.lookup "$ref" = none)
    (typed : source.lookup "type" = some (.string shape.type.name)) (bare : shape.notes = {})
    : EndShape source shape where
  typed := fun _ => typed
  fallback := fun other => (other own).elim
  bare := bare

theorem endShape_of_ofShape {source : Entries Json} (ends : Ends source)
    : (ofShape (doc.resolve trail) source path).Yields (EndShape source) := by
  refine ofShape_cases (doc.resolve trail) path ?reference ?unreadable ?list ?noItems ?object
    ?scalar ?unknownType ?typeNotString ?enumWithoutType ?noShape
  case reference =>
    intro text found
    rcases ends with own | ⟨other, same, outside⟩
    · cases own.symm.trans found
    · obtain rfl := Json.string.inj (Option.some.inj (same.symm.trans found))
      obtain ⟨address, external⟩ := Reference.eq_external_of_not_isLocal outside
      rw [external, resolve_external]
      refine Attempt.yields_pure ⟨fun own => ?_, fun _ => rfl, rfl⟩
      cases own.symm.trans found
  case list =>
    intro items own typed _
    exact (Attempt.yields_any _).bind fun items _ => Attempt.yields_pure (.of_type own typed rfl)
  case object =>
    intro own typed
    rw [ofObject]
    refine (Attempt.yields_any _).bind fun required _ => ?_
    refine (Attempt.yields_any _).bind fun properties? _ => ?_
    refine (Attempt.yields_any _).bind fun values? _ => ?_
    exact Attempt.yields_pure (.of_type own typed rfl)
  case scalar => exact fun type own typed => Attempt.yields_pure (.of_type own typed rfl)
  case unreadable | noItems | unknownType | typeNotString | enumWithoutType | noShape =>
    intros
    exact Attempt.yields_fail

/-- A node that is translated with references on the trail is translated alike without them. -/
theorem ofNode_without_trail {node : Json} {schema : Schema}
    (ok : (ofNode (doc.resolve trail) node path).outcome = .ok schema)
    : (ofNode (doc.resolve []) node path).outcome = .ok schema := by
  have agrees := agreesAt_of_subset doc (List.nil_subset trail) ⟨node, path⟩
  have same := agrees.eq fun failure fails => nomatch ok.symm.trans fails
  rw [← same]
  exact ok

/-- A reference into the package that is translated is not on the trail, and what it is translated
to is the translation of the node behind it.
-/
theorem ofNode_of_resolve {text : String} {next : Entries Json} {schema : Schema}
    (found : doc.standIn? (.ofText text) = some (.object next))
    (ok : (doc.resolve trail (.ofText text) path).outcome = .ok schema)
    : (ofNode (doc.resolve (.ofText text :: trail)) (.object next) path).outcome = .ok schema := by
  rw [resolve_local doc trail path (isLocal_of_standIn? found), found] at ok
  split at ok
  · cases ok
  · exact ok

/-- A chain is translated to the shape of its last node, with the annotations of its nodes in
layers. By induction on the chain: each link puts its annotations onto those behind it.
-/
theorem Chain.layeredBy (chain : doc.Chain first nodes last)
    : ∀ {trail schema}, (ofNode (doc.resolve trail) (.object first) path).outcome = .ok schema
        → ∃ shape notes,
            (ofShape (doc.resolve []) last path).outcome = .ok shape
            ∧ EndShape last shape
            ∧ Annotations.LayeredBy nodes shape.type notes
            ∧ shape.withNotes notes = schema := by
  induction chain with
  | @last source ends =>
      intro trail schema ok
      obtain ⟨shape, notes, shaped, updated, same⟩ := ofNode_eq_ok (ofNode_without_trail ok)
      have endShape := endShape_of_ofShape ends shape shaped
      rw [endShape.bare] at updated
      exact ⟨shape, notes, shaped, endShape, (Annotations.layeredBy_nil _).update updated, same⟩
  | link leads chain ih =>
      intro trail schema ok
      obtain ⟨behind, notes, shaped, updated, rfl⟩ := ofNode_eq_ok ok
      obtain ⟨text, reference, found⟩ := leads
      rw [ofShape_of_reference _ _ reference] at shaped
      obtain ⟨shape, before, ends, endShape, layered, rfl⟩ := ih (ofNode_of_resolve found shaped)
      rw [type_withNotes, notes_withNotes] at updated
      exact ⟨shape, notes, ends, endShape, layered.update updated, withNotes_withNotes.symm⟩

/-- The value is the JSON form of the shape of the last node, with the annotations of the nodes of
the chain. Members other than annotations are those of the shape, and each annotation is that of the
first node that has it. Every enumeration of a node, also one that is hidden, holds values of the
type of the shape only.
-/
structure NearestWins (nodes : List (Entries Json)) (last : Entries Json) (shape : Schema)
    (value : Json) : Prop where
  ends : EndShape last shape
  shaped : ∀ name ∉ annotationNames, value.member? name = shape.toJson.member? name
  annotated
    : Annotations.Layered nodes shape.type (value.member? "description") (value.member? "default")
        (value.member? "enum")

/-- Along a chain of references of any length, the shape is that of the last node, translated on its
own, and the nearest annotation wins.
-/
theorem nearestWins_of_chain {schema : Schema} (chain : doc.Chain first nodes last)
    (translated : (ofNode (doc.resolve trail) (.object first) path).outcome = .ok schema)
    : ∃ shape,
        (ofShape (doc.resolve []) last path).outcome = .ok shape
        ∧ NearestWins nodes last shape schema.toJson := by
  obtain ⟨shape, notes, shaped, ends, layered, rfl⟩ := chain.layeredBy translated
  refine ⟨shape, shaped, ends, fun name => member?_withNotes, ?_⟩
  obtain ⟨description, default, enum⟩ := @annotations_withNotes shape notes
  rw [description, default, enum]
  exact layered

/-- A node with a shape and all annotations. -/
def wordNode : Entries Json := [
  ("default", .string "idle"),
  ("description", .string "a word"),
  ("enum", .array [.string "fast", .string "slow", .string "idle"]),
  ("type", .string "string")]

/-- A reference to a word that allows fewer values, and has a type that is of no effect. -/
def speedNode : Entries Json := [
  ("$ref", .string "#/types/p:i:Word"),
  ("default", .string "slow"),
  ("enum", .array [.object [("name", .string "FAST"), ("value", .string "fast")], .string "slow"]),
  ("type", .string "integer")]

/-- A reference to a speed with a description of its own. -/
def speedReference : Entries Json := [
  ("$ref", .string "#/types/p:i:Speed"),
  ("description", .string "how fast")]

/-- The document of speeds and words. -/
def speedDocument : Document where
  types := [("p:i:Speed", .object speedNode), ("p:i:Word", .object wordNode)]

/-- A reference to a speed takes its description from itself, the rest from the speed, and its type
from the word.
-/
theorem speedReference_nearestWins
    : speedDocument.Chain speedReference [speedReference, speedNode, wordNode] wordNode
      ∧ ∃ schema,
          (ofNode (speedDocument.resolve []) (.object speedReference) .spec).outcome = .ok schema
          ∧ ∃ shape,
              (ofShape (speedDocument.resolve []) wordNode .spec).outcome = .ok shape
              ∧ NearestWins [speedReference, speedNode, wordNode] wordNode shape
                  schema.toJson := by
  have chain : speedDocument.Chain speedReference [speedReference, speedNode, wordNode] wordNode :=
    .link ⟨_, rfl, rfl⟩ (.link ⟨_, rfl, rfl⟩ (.last (.inl rfl)))
  have ok
      : (ofNode (speedDocument.resolve []) (.object speedReference) .spec).outcome.isOk := by
    decide +kernel
  obtain ⟨schema, translated⟩ := Except.exists_of_isOk ok
  exact ⟨chain, schema, translated, nearestWins_of_chain chain translated⟩

end Document

end ComponentCrd
