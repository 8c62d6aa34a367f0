import ComponentCrd.Schema.Translation

/-! The translation of a node, taken apart: the shape of a node by the member that decides it, an
object by its three parts, and a reference by the node that stands behind it.
-/

namespace ComponentCrd

namespace Schema

variable (resolve : Reference → Path → Attempt Schema) {source : Entries Json} (path : Path)

/-- A node without a rejected keyword is translated by its shape and its annotations. -/
theorem ofNode_of_no_keyword (free : Keyword.firstIn? source = none)
    : ofNode resolve (.object source) path
      = ofShape resolve source path >>= fun shape => .ofCheck path (shape.annotated source) := by
  rw [ofNode, free]

theorem ofNode_of_keyword {keyword : Keyword} (found : Keyword.firstIn? source = some keyword)
    : ofNode resolve (.object source) path = .refuse path (.keyword keyword) := by
  rw [ofNode, found]

theorem ofNode_of_not_object {value : Json} (scalar : value.isObject = false)
    : ofNode resolve value path = .malformed path .notObject := by
  rw [ofNode]
  rintro source rfl
  cases scalar

theorem ofShape_of_reference {text : String} (found : source.lookup "$ref" = some (.string text))
    : ofShape resolve source path = resolve (.ofText text) path := by
  rw [ofShape, found]

theorem ofShape_array (own : source.lookup "$ref" = none)
    (typed : source.lookup "type" = some (.string "array"))
    : ofShape resolve source path
      = match source.lookup "items" with
        | some (.object items) =>
            ofNode resolve (.object items) (.items path) >>= fun items => pure (.array items {})
        | _ => .refuse path .itemsNotObject := by
  rw [ofShape, own, typed]
  simp only
  split <;> simp_all

theorem ofShape_object (own : source.lookup "$ref" = none)
    (typed : source.lookup "type" = some (.string "object"))
    : ofShape resolve source path = ofObject resolve source path := by
  rw [ofShape, own, typed]
  simp only

theorem ofShape_scalar {name : String} (own : source.lookup "$ref" = none)
    (typed : source.lookup "type" = some (.string name)) (array : name ≠ "array")
    (object : name ≠ "object")
    : ofShape resolve source path
      = match ScalarType.ofName? name with
        | some type => pure (.scalar type {})
        | none => .refuse path (.unknownType name) := by
  cases found : ScalarType.ofName? name with
  | none => simp [ofShape, own, typed, found]
  | some type => simp [ofShape, own, typed, found]

/-- A name that is no scalar type, list or object is no type at all. -/
theorem name_ne_of_ofName? {name : String} (scalar : ScalarType.ofName? name = none)
    (array : name ≠ "array") (object : name ≠ "object") (type : SchemaType)
    : type.name ≠ name := by
  rintro rfl
  cases type with
  | array => exact array rfl
  | object => exact object rfl
  | string | boolean | integer | number =>
      simp [ScalarType.ofName?, ScalarType.type, SchemaType.name] at scalar

/-- What the shape of a node can come to. Its reference decides, if it has one, and its type
otherwise; the shape of a list is that of its items, and every node that is neither fails in a way
of its own. What holds in each case holds of the attempt.
-/
@[elab_as_elim]
theorem ofShape_cases {motive : Attempt Schema → Prop}
    (reference
      : ∀ text,
          source.lookup "$ref" = some (.string text)
          → motive (resolve (.ofText text) path))
    (unreadable
      : ∀ value,
          source.lookup "$ref" = some value
          → value.string? = none
          → motive (.malformed path .referenceNotString))
    (list
      : ∀ items,
          source.lookup "$ref" = none
          → source.lookup "type" = some (.string "array")
          → source.lookup "items" = some (.object items)
          → motive
              (ofNode resolve (.object items) (.items path) >>= fun items =>
                pure (.array items {})))
    (noItems
      : source.lookup "$ref" = none
        → source.lookup "type" = some (.string "array")
        → (∀ items, source.lookup "items" ≠ some (.object items))
        → motive (.refuse path .itemsNotObject))
    (object
      : source.lookup "$ref" = none
        → source.lookup "type" = some (.string "object")
        → motive (ofObject resolve source path))
    (scalar
      : ∀ type : ScalarType,
          source.lookup "$ref" = none
          → source.lookup "type" = some (.string type.type.name)
          → motive (pure (.scalar type {})))
    (unknownType
      : ∀ name,
          source.lookup "$ref" = none
          → source.lookup "type" = some (.string name)
          → (∀ type : SchemaType, type.name ≠ name)
          → motive (.refuse path (.unknownType name)))
    (typeNotString
      : ∀ value,
          source.lookup "$ref" = none
          → source.lookup "type" = some value
          → value.string? = none
          → motive (.refuse path .typeNotString))
    (enumWithoutType
      : source.lookup "$ref" = none
        → source.lookup "type" = none
        → source.has "enum"
        → motive (.refuse path .enumWithoutType))
    (noShape
      : source.lookup "$ref" = none
        → source.lookup "type" = none
        → source.has "enum" = false
        → motive (.refuse path .noShape))
    : motive (ofShape resolve source path) := by
  cases own : source.lookup "$ref" with
  | some value =>
      cases value with
      | string text =>
          rw [ofShape_of_reference resolve path own]
          exact reference text own
      | null | bool _ | number _ | array _ | object _ =>
          rw [ofShape, own]
          exact unreadable _ own rfl
  | none =>
      cases typed : source.lookup "type" with
      | none =>
          rw [ofShape, own, typed]
          cases enum : source.has "enum" with
          | true => exact enumWithoutType own typed enum
          | false => exact noShape own typed enum
      | some value =>
          cases value with
          | string name =>
              by_cases array : name = "array"
              · subst array
                rw [ofShape_array resolve path own typed]
                split
                · next items found => exact list items own typed found
                · next missing => exact noItems own typed missing
              · by_cases object' : name = "object"
                · subst object'
                  rw [ofShape_object resolve path own typed]
                  exact object own typed
                · rw [ofShape_scalar resolve path own typed array object']
                  cases known : ScalarType.ofName? name with
                  | none =>
                      have unknown := name_ne_of_ofName? known array object'
                      exact unknownType name own typed unknown
                  | some type =>
                      have named : type.type.name = name := by simpa using List.find?_some known
                      exact scalar type own (named ▸ typed)
          | null | bool _ | number _ | array _ | object _ =>
              rw [ofShape, own, typed]
              exact typeNotString _ own typed rfl

theorem propertiesOf_eq (source : Entries Json)
    : propertiesOf resolve source path
      = match source.lookup "properties" with
        | none => pure none
        | some (.object properties) => some <$> ofProperties resolve properties path
        | some _ => .malformed path .propertiesNotObject := by
  rw [propertiesOf]
  split <;> simp only [*]

theorem valuesOf_eq (source : Entries Json)
    : valuesOf resolve source path
      = match source.lookup "additionalProperties" with
        | none => pure none
        | some (.object values) => some <$> ofNode resolve (.object values) (.values path)
        | some _ => .refuse path .valuesNotObject := by
  rw [valuesOf]
  split <;> simp only [*]

/-- Properties are translated one after the other, without those that are passed over. -/
theorem ofProperties_cons (name : String) (node : Json) (rest : Entries Json)
    : ofProperties resolve ((name, node) :: rest) path
      = (do
          let kept? ← (ofNode resolve node (.property path name)).orSkip
          let others ← ofProperties resolve rest path
          return kept?.toList.map (fun schema => (name, schema)) ++ others) := by
  rw [ofProperties]

end Schema

/-- The node of a resource is an object without a reference whose only nodes are the input
properties, and that requires the required inputs, if there are any.
-/
theorem Resource.node_eq (resource : Resource)
    : ∃ source,
        resource.node = .object source
        ∧ source.lookup "$ref" = none
        ∧ source.lookup "properties" = some (.object resource.inputProperties)
        ∧ source.lookup "items" = none
        ∧ source.lookup "additionalProperties" = none
        ∧ source.lookup "type" = some (.string "object")
        ∧ source.lookup "required"
          = if resource.normalizedRequired.isEmpty then none
            else some (.ofStrings resource.normalizedRequired) := by
  refine ⟨_, rfl, ?_⟩
  cases resource.normalizedRequired.isEmpty <;> simp [List.lookup_cons]

namespace Document

/-- The node that stands behind a reference inside the package: the object of a type, or the
object of the input properties of a resource.
-/
def standIn? (doc : Document) (reference : Reference) : Option Json :=
  match doc.target? reference with
  | some (.type (.object source)) => some (.object source)
  | some (.resource resource) => some resource.node
  | _ => none

/-- What is wrong with a reference inside the package that no node stands behind. -/
def deadEnd (doc : Document) (reference : Reference) : Malformation :=
  match doc.target? reference, reference with
  | some _, reference => .typeNotObject reference
  | none, .resource token => .unresolvedResource (.resource token)
  | none, reference => .unresolvedType reference

theorem resolve_external (doc : Document) (trail : List Reference) (text : String) (path : Path)
    : doc.resolve trail (.external text) path = pure .fallback := by
  rw [resolve]

/-- A reference inside the package that is not on the trail is translated as the node that stands
behind it, with the reference on the trail.
-/
theorem resolve_local (doc : Document) (trail : List Reference) {reference : Reference}
    (path : Path) (inside : reference.isLocal)
    : doc.resolve trail reference path
      = if reference ∈ trail then .refuse path (.cyclic reference)
        else
          match doc.standIn? reference with
          | some node => Schema.ofNode (doc.resolve (reference :: trail)) node path
          | none => .malformed path (doc.deadEnd reference) := by
  have proper : ∀ text, reference = .external text → False := by
    rintro text rfl
    simp [Reference.isLocal] at inside
  rw [resolve]
  · split
    · rfl
    · split
      · next source found => simp [standIn?, found]
      · next value scalar found =>
          cases value with
          | object source => exact (scalar source rfl).elim
          | null | bool _ | number _ | string _ | array _ => simp [standIn?, deadEnd, found]
      · next resource found => simp [standIn?, found]
      · next missing =>
          simp only [standIn?, deadEnd, missing]
          cases reference <;> rfl
  · exact proper

/-- What resolving a reference can come to: the fallback schema outside the package, a refusal where
the reference is on the trail, the translation of the node that stands behind it with a longer
trail, or a failure where there is no such node. What holds in each case holds of the attempt.
-/
@[elab_as_elim]
theorem resolve_cases (doc : Document) (trail : List Reference) (reference : Reference)
    (path : Path) {motive : Attempt Schema → Prop}
    (outside : reference.isLocal = false → motive (pure .fallback))
    (cyclic : reference.isLocal → reference ∈ trail → motive (.refuse path (.cyclic reference)))
    (behind
      : ∀ node,
          reference ∉ trail
          → doc.standIn? reference = some node
          → motive (Schema.ofNode (doc.resolve (reference :: trail)) node path))
    (deadEnd
      : reference.isLocal
        → doc.standIn? reference = none
        → motive (.malformed path (doc.deadEnd reference)))
    : motive (doc.resolve trail reference path) := by
  cases inside : reference.isLocal with
  | false =>
      obtain ⟨text, rfl⟩ := Reference.eq_external_of_not_isLocal inside
      rw [resolve_external]
      exact outside inside
  | true =>
      rw [resolve_local doc trail path inside]
      split
      · next onTrail => exact cyclic inside onTrail
      · next fresh =>
          split
          · next node found => exact behind node fresh found
          · next missing => exact deadEnd inside missing

/-- A node stands behind references inside the package only. -/
theorem isLocal_of_standIn? {doc : Document} {reference : Reference} {node : Json}
    (found : doc.standIn? reference = some node)
    : reference.isLocal := by
  cases reference with
  | type token | resource token => rfl
  | external text => simp [standIn?, target?] at found

/-- A reference that a node stands behind is one of the document's references. -/
theorem mem_references_of_standIn? {doc : Document} {reference : Reference} {node : Json}
    (found : doc.standIn? reference = some node)
    : reference ∈ doc.references := by
  unfold standIn? at found
  split at found
  · next target => exact mem_references_of_target? target
  · next target => exact mem_references_of_target? target
  · cases found

end Document

end ComponentCrd
