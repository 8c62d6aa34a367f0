import ComponentCrd.Proofs.Schema.Provenance

/-! What schemas inherit from the nodes that they are translated from. Where a property of nodes
passes on to the nodes below and behind them, and a property of schemas is built up from the schemas
below, every node with the first property is translated to a schema with the second one.
-/

namespace ComponentCrd

namespace Schema

-----------------------------------------------------------------------------------------
-- The parts of an object
-----------------------------------------------------------------------------------------

variable {resolve : Reference → Path → Attempt Schema}

/-- The names that a node requires are in increasing order. -/
theorem requiredNames_increasing (source : Entries Json) (path : Path)
    : (requiredNames source path).Yields (·.Pairwise (· < ·)) := by
  unfold requiredNames
  split
  · exact Attempt.yields_pure .nil
  · split
    · exact Attempt.yields_pure (increasing_sortedNames _)
    · exact Attempt.yields_fail

/-- Kept properties have what each one is translated to have, by induction over the properties. -/
theorem yields_ofProperties {holds : Schema → Prop} {properties : Entries Json} {path : Path}
    (each
      : ∀ entry ∈ properties, (ofNode resolve entry.2 (.property path entry.1)).Yields holds)
    : (ofProperties resolve properties path).Yields fun kept => ∀ entry ∈ kept, holds entry.2 := by
  induction properties with
  | nil =>
      rw [ofProperties]
      exact Attempt.yields_pure (by simp)
  | cons head rest ih =>
      rw [ofProperties_cons]
      have first := (each head (.head _)).orSkip
      refine first.bind fun kept? holdsFirst => ?_
      have others := ih fun entry member => each entry (.tail _ member)
      refine others.bind fun others holdsOthers => Attempt.yields_pure ?_
      intro entry member
      rcases List.mem_append.mp member with new | old
      · obtain ⟨schema, kept, rfl⟩ := List.mem_map.mp new
        exact holdsFirst schema (Option.mem_toList.mp kept)
      · exact holdsOthers entry old

/-- The names of kept properties are names of properties, in their order, by induction over the
properties.
-/
theorem names_ofProperties (properties : Entries Json) (path : Path)
    : (ofProperties resolve properties path).Yields
        fun kept => (Entries.names kept).Sublist properties.names := by
  induction properties with
  | nil =>
      rw [ofProperties]
      exact Attempt.yields_pure (.refl _)
  | cons head rest ih =>
      rw [ofProperties_cons]
      refine (Attempt.yields_any _).bind fun kept? _ => ?_
      refine ih.bind fun others sublist => Attempt.yields_pure ?_
      cases kept? with
      | none => exact sublist.cons _
      | some schema => exact sublist.cons_cons _

/-- What is kept of the properties of an object comes from them, in their order, and each one has
what it is translated to have.
-/
structure KeptFrom (source : Entries Json) (holds : Schema → Prop)
    (properties? : Option (Entries Schema)) : Prop where
  each : ∀ entry ∈ properties?.getD [], holds entry.2
  names
    : ∀ kept, properties? = some kept
        → ∃ properties : Entries Json,
            source.lookup "properties" = some (.object properties)
            ∧ (Entries.names kept).Sublist properties.names

theorem yields_propertiesOf {holds : Schema → Prop} {source : Entries Json} {path : Path}
    (each
      : ∀ properties, source.lookup "properties" = some (.object properties)
          → ∀ entry ∈ properties, (ofNode resolve entry.2 (.property path entry.1)).Yields holds)
    : (propertiesOf resolve source path).Yields (KeptFrom source holds) := by
  rw [propertiesOf_eq]
  split
  · exact Attempt.yields_pure ⟨by simp, by simp⟩
  · next properties found =>
      refine .map fun kept translated => ⟨?_, ?_⟩
      · exact yields_ofProperties (each properties found) kept translated
      · rintro _ ⟨⟩
        exact ⟨properties, found, names_ofProperties properties path kept translated⟩
  · exact Attempt.yields_fail

/-- The other values of an object have what they are translated to have. -/
theorem yields_valuesOf {holds : Schema → Prop} {source : Entries Json} {path : Path}
    (each
      : ∀ values, source.lookup "additionalProperties" = some (.object values)
          → (ofNode resolve (.object values) (.values path)).Yields holds)
    : (valuesOf resolve source path).Yields
        fun values? => ∀ values, values? = some values → holds values := by
  rw [valuesOf_eq]
  split
  · exact Attempt.yields_pure (by simp)
  · next values found =>
      refine .map fun schema translated => ?_
      rintro _ ⟨⟩
      exact each values found schema translated
  · exact Attempt.yields_fail

-----------------------------------------------------------------------------------------
-- Inherited properties
-----------------------------------------------------------------------------------------

/-- Nodes that are fine have fine nodes below them, and schemas hold what is asked of them if the
schemas that they are made of do and their node is fine.
-/
structure Inherited (fine : Json → Prop) (holds : Schema → Prop) : Prop where
  property
    : ∀ {source properties : Entries Json}, fine (.object source)
        → source.lookup "properties" = some (.object properties)
        → ∀ entry ∈ properties, fine entry.2
  items
    : ∀ {source items : Entries Json}, fine (.object source)
        → source.lookup "items" = some (.object items) → fine (.object items)
  values
    : ∀ {source values : Entries Json}, fine (.object source)
        → source.lookup "additionalProperties" = some (.object values) → fine (.object values)
  fallback
    : ∀ {source : Entries Json} {text : String}, fine (.object source)
        → source.lookup "$ref" = some (.string text) → (Reference.ofText text).isLocal = false
        → holds .fallback
  scalar : ∀ type, holds (.scalar type {})
  array : ∀ {items}, holds items → holds (.array items {})
  object
    : ∀ {source properties? values?} {required : List String}, fine (.object source)
        → required.Pairwise (· < ·)
        → KeptFrom source holds properties?
        → (∀ values, values? = some values → holds values)
        → holds (assemble required properties? values?)
  annotated
    : ∀ {source schema result}, fine (.object source) → holds schema
        → schema.annotated source = .ok result → holds result

/-- References of fine nodes lead to what is asked for. -/
def ResolvesTo (fine : Json → Prop) (holds : Schema → Prop)
    (resolve : Reference → Path → Attempt Schema) : Prop :=
  ∀ {source : Entries Json} {text : String}, fine (.object source)
    → source.lookup "$ref" = some (.string text)
    → ∀ path, (resolve (.ofText text) path).Yields holds

namespace Inherited

variable {fine : Json → Prop} {holds : Schema → Prop} (inherited : Inherited fine holds)
include inherited

theorem yields_ofObject {source : Entries Json} {path : Path} (own : fine (.object source))
    (below
      : ∀ node path, sizeOf node < sizeOf source → fine node
          → (ofNode resolve node path).Yields holds)
    : (ofObject resolve source path).Yields holds := by
  have properties : (propertiesOf resolve source path).Yields (KeptFrom source holds) := by
    refine yields_propertiesOf fun properties found entry member => below _ _ ?_ ?_
    · have := Entries.sizeOf_members_lt found
      have := List.sizeOf_lt_of_mem member
      obtain ⟨name, node⟩ := entry
      simp only [Prod.mk.sizeOf_spec] at this ⊢
      omega
    · exact inherited.property own found entry member
  have values
      : (valuesOf resolve source path).Yields
          fun values? => ∀ values, values? = some values → holds values := by
    refine yields_valuesOf fun values found => below _ _ (Entries.sizeOf_lt_of_lookup found) ?_
    exact inherited.values own found
  rw [ofObject]
  refine (requiredNames_increasing source path).bind fun required increasing => ?_
  refine properties.bind fun properties? kept => ?_
  exact values.bind fun values? holdsValues =>
    Attempt.yields_pure (inherited.object own increasing kept holdsValues)

theorem yields_ofShape (resolves : ResolvesTo fine holds resolve) {source : Entries Json}
    {path : Path} (own : fine (.object source))
    (below
      : ∀ node path, sizeOf node < sizeOf source → fine node
          → (ofNode resolve node path).Yields holds)
    : (ofShape resolve source path).Yields holds := by
  refine ofShape_cases resolve path ?reference ?unreadable ?list ?noItems ?object ?scalar
    ?unknownType ?typeNotString ?enumWithoutType ?noShape
  case reference => exact fun text found => resolves own found path
  case list =>
    intro items _ _ found
    have items := below _ (.items path) (Entries.sizeOf_lt_of_lookup found)
      (inherited.items own found)
    exact items.bind fun items holdsItems => Attempt.yields_pure (inherited.array holdsItems)
  case object => exact fun _ _ => inherited.yields_ofObject own below
  case scalar => exact fun type _ _ => Attempt.yields_pure (inherited.scalar type)
  case unreadable | noItems | unknownType | typeNotString | enumWithoutType | noShape =>
    intros
    exact Attempt.yields_fail

/-- Fine nodes are translated to schemas with the property where references are, by recursion on the
node.
-/
theorem yields_ofNode (resolves : ResolvesTo fine holds resolve) (node : Json) (path : Path)
    : fine node → (ofNode resolve node path).Yields holds := by
  cases node with
  | object source =>
      intro own
      cases keyword : Keyword.firstIn? source with
      | some found =>
          rw [ofNode_of_keyword resolve path keyword]
          exact Attempt.yields_fail
      | none =>
          rw [ofNode_of_no_keyword resolve path keyword]
          have shape : (ofShape resolve source path).Yields holds := by
            refine inherited.yields_ofShape resolves own fun next path smaller => ?_
            exact yields_ofNode resolves next path
          refine shape.bind fun shape holdsShape => ?_
          exact Attempt.yields_ofCheck fun result annotates =>
            inherited.annotated own holdsShape annotates
  | null | bool _ | number _ | string _ | array _ =>
      intro _
      rw [ofNode_of_not_object resolve path rfl]
      exact Attempt.yields_fail
termination_by sizeOf node
decreasing_by
  simp only [Json.object.sizeOf_spec]
  omega

/-- What the references of fine nodes lead to has the property if fine nodes stand behind them, by
recursion over the references that are not on the trail yet.
-/
theorem resolvesTo {doc : Document}
    (behind : ∀ {reference node}, doc.standIn? reference = some node → fine node)
    (trail : List Reference)
    : ResolvesTo fine holds (doc.resolve trail) := by
  intro source text own found path
  refine doc.resolve_cases trail (.ofText text) path ?outside ?cyclic ?behind ?deadEnd
  case outside => exact fun outside => Attempt.yields_pure (inherited.fallback own found outside)
  case cyclic => exact fun _ _ => Attempt.yields_fail
  case behind =>
    intro node fresh stands
    have := Document.unvisited_cons_lt (Document.mem_references_of_standIn? stands) fresh
    exact inherited.yields_ofNode (resolvesTo behind (.ofText text :: trail)) node path
      (behind stands)
  case deadEnd => exact fun _ _ => Attempt.yields_fail
termination_by doc.unvisited trail

/-- A component with fine input properties is translated to an object of schemas with the property,
which are kept from the input properties in their order. It requires some of their names, in
increasing order.
-/
theorem object_of_translate {doc : Document} {component : Component} {translation : Translation}
    (behind : ∀ {reference node}, doc.standIn? reference = some node → fine node)
    (inputs : ∀ entry ∈ component.resource.inputProperties, fine entry.2)
    (translated : doc.translate component = .ok translation)
    : ∃ (kept : Entries Schema) (required : List String),
        translation.schema = .object (some kept) none required {}
        ∧ (∀ entry ∈ kept, holds entry.2)
        ∧ kept.names.Sublist component.resource.inputProperties.names
        ∧ required.Pairwise (· < ·)
        ∧ ∀ name ∈ required, kept.has name := by
  obtain ⟨kept, ok⟩ := Document.inputs_of_translate (.inl ⟨translation, translated⟩)
  rw [Document.translate_of_inputs ok] at translated
  split at translated
  · cases translated
  · obtain rfl := Except.ok.inj translated
    refine ⟨kept, _, rfl, ?_, names_ofProperties _ _ kept ok, ?_, ?_⟩
    · refine yields_ofProperties (fun entry member => ?_) kept ok
      exact inherited.yields_ofNode (inherited.resolvesTo behind []) entry.2 _ (inputs entry member)
    · exact (increasing_sortedNames _).filter _
    · exact fun name member => (List.mem_filter.mp member).2

end Inherited

end Schema

end ComponentCrd
