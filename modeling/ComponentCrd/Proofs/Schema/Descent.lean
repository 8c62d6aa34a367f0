import ComponentCrd.Proofs.Schema.Attempts
import ComponentCrd.Proofs.Schema.TranslationParts
import Mathlib.Logic.Relation

/-! The nodes that the translation of a node goes on to, and where the failures it meets come from:
each lies in one of these nodes itself, or in what the reference of one of them leads to.
-/

namespace ComponentCrd

/-- A schema node and the path it stands at. -/
structure Place where
  node : Json
  path : Path

namespace Schema

-----------------------------------------------------------------------------------------
-- The nodes below a node, as the translation sees them
-----------------------------------------------------------------------------------------

/-- No keyword rejects the node, and no reference stands for its shape. -/
structure Plain (source : Entries Json) : Prop where
  free : Keyword.firstIn? source = none
  own : source.lookup "$ref" = none

/-- The node is translated as a list. -/
structure ListNode (source : Entries Json) : Prop extends Plain source where
  typed : source.lookup "type" = some (.string "array")

/-- The node is translated as an object: its type says so, and the names it requires are a list
of strings, if it requires any.
-/
structure ObjectNode (source : Entries Json) : Prop extends Plain source where
  typed : source.lookup "type" = some (.string "object")
  readable : ∀ raw, source.lookup "required" = some raw → ∃ names, raw.strings? = some names

/-- The shape of the node is the one of what the reference leads to. -/
def Refers (source : Entries Json) (reference : Reference) : Prop :=
  Keyword.firstIn? source = none
  ∧ ∃ text, source.lookup "$ref" = some (.string text) ∧ Reference.ofText text = reference

/-- The translation of the first node goes on to the second, without following a reference. -/
inductive Descends : Place → Place → Prop
  | items {source items path} (list : ListNode source)
    (found : source.lookup "items" = some (.object items))
    : Descends ⟨.object source, path⟩ ⟨.object items, .items path⟩
  | property {source properties name node path} (object : ObjectNode source)
    (found : source.lookup "properties" = some (.object properties))
    (member : (name, node) ∈ properties)
    : Descends ⟨.object source, path⟩ ⟨node, .property path name⟩
  | values {source values path} (object : ObjectNode source)
    (properties : ∀ value, source.lookup "properties" = some value → value.isObject)
    (found : source.lookup "additionalProperties" = some (.object values))
    : Descends ⟨.object source, path⟩ ⟨.object values, .values path⟩

-----------------------------------------------------------------------------------------
-- Failures and the nodes they lie in
-----------------------------------------------------------------------------------------

/-- The failures that lie in a node itself, not in a node below it or behind its reference. -/
inductive Fault : Place → Failure → Prop
  | node {node path} (scalar : node.isObject = false)
    : Fault ⟨node, path⟩ (.malformed path .notObject)
  | keyword {source path keyword} (found : Keyword.firstIn? source = some keyword)
    : Fault ⟨.object source, path⟩ (.unsupported ⟨path, .keyword keyword⟩)
  | reference {source path value} (free : Keyword.firstIn? source = none)
    (found : source.lookup "$ref" = some value) (unreadable : value.string? = none)
    : Fault ⟨.object source, path⟩ (.malformed path .referenceNotString)
  | type {source path value} (plain : Plain source)
    (found : source.lookup "type" = some value) (unreadable : value.string? = none)
    : Fault ⟨.object source, path⟩ (.unsupported ⟨path, .typeNotString⟩)
  | unknownType {source path name} (plain : Plain source)
    (found : source.lookup "type" = some (.string name))
    (unknown : ∀ type : SchemaType, type.name ≠ name)
    : Fault ⟨.object source, path⟩ (.unsupported ⟨path, .unknownType name⟩)
  | enumWithoutType {source path} (plain : Plain source) (untyped : source.lookup "type" = none)
    (enum : source.has "enum")
    : Fault ⟨.object source, path⟩ (.unsupported ⟨path, .enumWithoutType⟩)
  | noShape {source path} (plain : Plain source) (untyped : source.lookup "type" = none)
    (bare : source.has "enum" = false)
    : Fault ⟨.object source, path⟩ (.unsupported ⟨path, .noShape⟩)
  | items {source path} (list : ListNode source)
    (missing : ∀ items, source.lookup "items" ≠ some (.object items))
    : Fault ⟨.object source, path⟩ (.unsupported ⟨path, .itemsNotObject⟩)
  | required {source path raw} (plain : Plain source)
    (typed : source.lookup "type" = some (.string "object"))
    (found : source.lookup "required" = some raw) (unreadable : raw.strings? = none)
    : Fault ⟨.object source, path⟩ (.unsupported ⟨path, .requiredNotNames⟩)
  | properties {source path value} (object : ObjectNode source)
    (found : source.lookup "properties" = some value) (scalar : value.isObject = false)
    : Fault ⟨.object source, path⟩ (.malformed path .propertiesNotObject)
  | values {source path value} (object : ObjectNode source)
    (found : source.lookup "additionalProperties" = some value) (scalar : value.isObject = false)
    : Fault ⟨.object source, path⟩ (.unsupported ⟨path, .valuesNotObject⟩)
  | annotations {source path cause} {shape : Schema} (free : Keyword.firstIn? source = none)
    (refused : shape.annotated source = .error cause)
    : Fault ⟨.object source, path⟩ (.unsupported ⟨path, cause⟩)

variable {resolve : Reference → Path → Attempt Schema} {failure : Failure}

theorem requiredNames_fault {source : Entries Json} {path : Path} (plain : Plain source)
    (typed : source.lookup "type" = some (.string "object"))
    (met : (requiredNames source path).Meets failure)
    : Fault ⟨.object source, path⟩ failure := by
  unfold requiredNames at met
  split at met
  · exact (Attempt.not_meets_pure _ met).elim
  · next raw found =>
      split at met
      · exact (Attempt.not_meets_pure _ met).elim
      · next unreadable =>
          obtain rfl := Attempt.meets_fail.mp met
          exact .required plain typed found unreadable

/-- An object whose required names were read has readable ones. -/
theorem readable_of_requiredNames {source : Entries Json} {path : Path} {names : List String}
    (read : (requiredNames source path).outcome = .ok names)
    : ∀ raw, source.lookup "required" = some raw → ∃ names, raw.strings? = some names := by
  intro raw found
  simp only [requiredNames, found] at read
  cases strings : raw.strings? with
  | some names => exact ⟨names, rfl⟩
  | none => simp [strings, Attempt.refuse, Attempt.fail] at read

/-- Properties that were translated are an object. -/
theorem isObject_of_propertiesOf {source : Entries Json} {path : Path}
    {properties? : Option (Entries Schema)}
    (translated : (propertiesOf resolve source path).outcome = .ok properties?)
    : ∀ value, source.lookup "properties" = some value → value.isObject := by
  intro value found
  cases value with
  | object members => rfl
  | null | bool _ | number _ | string _ | array _ =>
      simp [propertiesOf_eq, found, Attempt.malformed, Attempt.fail] at translated

/-- A failure among properties is one of a property, by induction over their list. -/
theorem meets_ofProperties {properties : Entries Json} {path : Path}
    (met : (ofProperties resolve properties path).Meets failure)
    : ∃ entry ∈ properties, (ofNode resolve entry.2 (.property path entry.1)).Meets failure := by
  induction properties with
  | nil =>
      rw [ofProperties] at met
      exact (Attempt.not_meets_pure _ met).elim
  | cons entry rest ih =>
      rw [ofProperties_cons, Attempt.meets_bind] at met
      rcases met with inFirst | ⟨kept?, _, met⟩
      · exact ⟨entry, .head _, Attempt.meets_orSkip.mp inFirst⟩
      · rw [Attempt.meets_bind] at met
        rcases met with inRest | ⟨others, _, impossible⟩
        · obtain ⟨entry, member, met⟩ := ih inRest
          exact ⟨entry, .tail _ member, met⟩
        · exact (Attempt.not_meets_pure _ impossible).elim

/-- A failure lies in the node at a place, behind its reference, or in a node that the translation
goes on to from there.
-/
def Traced (resolve : Reference → Path → Attempt Schema) (place : Place) (failure : Failure)
    : Prop :=
  Fault place failure
  ∨ (∃ source reference, place.node = .object source ∧ Refers source reference
      ∧ (resolve reference place.path).Meets failure)
  ∨ ∃ next, Descends place next ∧ (ofNode resolve next.node next.path).Meets failure

theorem traced_ofObject {source : Entries Json} {path : Path} (plain : Plain source)
    (typed : source.lookup "type" = some (.string "object"))
    (met : (ofObject resolve source path).Meets failure)
    : Traced resolve ⟨.object source, path⟩ failure := by
  rw [ofObject, Attempt.meets_bind] at met
  rcases met with inRequired | ⟨required, read, met⟩
  · exact .inl (requiredNames_fault plain typed inRequired)
  have object : ObjectNode source := ⟨plain, typed, readable_of_requiredNames read⟩
  rw [Attempt.meets_bind] at met
  rcases met with inProperties | ⟨properties?, translated, met⟩
  · rw [propertiesOf_eq] at inProperties
    split at inProperties
    · exact (Attempt.not_meets_pure _ inProperties).elim
    · next properties found =>
        obtain ⟨entry, member, met⟩ := meets_ofProperties (Attempt.meets_map.mp inProperties)
        exact .inr (.inr ⟨_, .property object found member, met⟩)
    · next value scalar found =>
        obtain rfl := Attempt.meets_fail.mp inProperties
        exact .inl (.properties object found (Json.isObject_eq_false scalar))
  rw [Attempt.meets_bind] at met
  rcases met with inValues | ⟨_, _, impossible⟩
  · rw [valuesOf_eq] at inValues
    split at inValues
    · exact (Attempt.not_meets_pure _ inValues).elim
    · next values found =>
        have properties := isObject_of_propertiesOf translated
        exact .inr (.inr ⟨_, .values object properties found, Attempt.meets_map.mp inValues⟩)
    · next value scalar found =>
        obtain rfl := Attempt.meets_fail.mp inValues
        exact .inl (.values object found (Json.isObject_eq_false scalar))
  · exact (Attempt.not_meets_pure _ impossible).elim

theorem traced_ofShape {source : Entries Json} {path : Path}
    (free : Keyword.firstIn? source = none) (met : (ofShape resolve source path).Meets failure)
    : Traced resolve ⟨.object source, path⟩ failure := by
  revert met
  refine ofShape_cases resolve path ?reference ?unreadable ?list ?noItems ?object ?scalar
    ?unknownType ?typeNotString ?enumWithoutType ?noShape
  case reference =>
    intro text found met
    exact .inr (.inl ⟨source, _, rfl, ⟨free, text, found, rfl⟩, met⟩)
  case list =>
    intro items own typed found met
    rw [Attempt.meets_bind] at met
    rcases met with inItems | ⟨_, _, impossible⟩
    · exact .inr (.inr ⟨_, .items ⟨⟨free, own⟩, typed⟩ found, inItems⟩)
    · exact (Attempt.not_meets_pure _ impossible).elim
  case object => exact fun own typed met => traced_ofObject ⟨free, own⟩ typed met
  case scalar => exact fun type _ _ met => (Attempt.not_meets_pure _ met).elim
  -- Whatever else a node can be is a fault of its own.
  case unreadable =>
    intro value found notString met
    obtain rfl := Attempt.meets_fail.mp met
    exact .inl (.reference free found notString)
  case noItems =>
    intro own typed missing met
    obtain rfl := Attempt.meets_fail.mp met
    exact .inl (.items ⟨⟨free, own⟩, typed⟩ missing)
  case unknownType =>
    intro name own typed unknown met
    obtain rfl := Attempt.meets_fail.mp met
    exact .inl (.unknownType ⟨free, own⟩ typed unknown)
  case typeNotString =>
    intro value own typed notString met
    obtain rfl := Attempt.meets_fail.mp met
    exact .inl (.type ⟨free, own⟩ typed notString)
  case enumWithoutType =>
    intro own typed enum met
    obtain rfl := Attempt.meets_fail.mp met
    exact .inl (.enumWithoutType ⟨free, own⟩ typed enum)
  case noShape =>
    intro own typed bare met
    obtain rfl := Attempt.meets_fail.mp met
    exact .inl (.noShape ⟨free, own⟩ typed bare)

/-- Every failure that the translation of a node meets is traced one step. -/
theorem traced_ofNode (place : Place) (met : (ofNode resolve place.node place.path).Meets failure)
    : Traced resolve place failure := by
  obtain ⟨node, path⟩ := place
  cases node with
  | object source =>
      cases keyword : Keyword.firstIn? source with
      | some found =>
          rw [ofNode_of_keyword resolve path keyword] at met
          obtain rfl := Attempt.meets_fail.mp met
          exact .inl (.keyword keyword)
      | none =>
          rw [ofNode_of_no_keyword resolve path keyword, Attempt.meets_bind] at met
          rcases met with inShape | ⟨shape, _, inAnnotations⟩
          · exact traced_ofShape keyword inShape
          · obtain ⟨cause, refused, rfl⟩ := Attempt.meets_ofCheck.mp inAnnotations
            exact .inl (.annotations keyword refused)
  | null | bool _ | number _ | string _ | array _ =>
      rw [ofNode_of_not_object resolve path rfl] at met
      obtain rfl := Attempt.meets_fail.mp met
      exact .inl (.node rfl)

/-- The translation goes on to smaller nodes only. -/
theorem Descends.sizeOf_lt {place next : Place} (step : Descends place next)
    : sizeOf next.node < sizeOf place.node := by
  cases step with
  | items _ found | values _ _ found =>
      have := Entries.sizeOf_members_lt found
      simp only [Json.object.sizeOf_spec]
      omega
  | property _ found member =>
      have := Entries.sizeOf_members_lt found
      have := List.sizeOf_lt_of_mem member
      simp only [Json.object.sizeOf_spec, Prod.mk.sizeOf_spec] at *
      omega

/-- Every failure that the translation of a node meets lies in a node it goes on to or behind the
reference of one. Witness: trace it step by step; the nodes get smaller.
-/
theorem origin_of_meets (place : Place)
    (met : (ofNode resolve place.node place.path).Meets failure)
    : ∃ origin,
        Relation.ReflTransGen Descends place origin
        ∧ (Fault origin failure
          ∨ ∃ source reference, origin.node = .object source ∧ Refers source reference
              ∧ (resolve reference origin.path).Meets failure) := by
  rcases traced_ofNode place met with lies | behind | ⟨next, step, met⟩
  · exact ⟨place, .refl, .inl lies⟩
  · exact ⟨place, .refl, .inr behind⟩
  · have := step.sizeOf_lt
    obtain ⟨origin, path, found⟩ := origin_of_meets next met
    exact ⟨origin, .head step path, found⟩
termination_by sizeOf place.node

-----------------------------------------------------------------------------------------
-- Translations that halt below a node
-----------------------------------------------------------------------------------------

/-- A failure of properties is the failure of one of them, and it stops the translation. By
induction over the properties.
-/
theorem entry_of_ofProperties {properties : Entries Json} {path : Path}
    (error : (ofProperties resolve properties path).outcome = .error failure)
    : ∃ entry ∈ properties,
        (ofNode resolve entry.2 (.property path entry.1)).outcome = .error failure
        ∧ failure.Stops := by
  induction properties with
  | nil => rw [ofProperties] at error; cases error
  | cons entry rest ih =>
      rw [ofProperties_cons] at error
      cases first : (ofNode resolve entry.2 (.property path entry.1)).orSkip.outcome with
      | error other =>
          rw [Attempt.bind_of_error first] at error
          obtain rfl := Except.error.inj error
          exact ⟨entry, .head _, Attempt.outcome_orSkip_eq_error.mp first⟩
      | ok kept? =>
          rw [Attempt.bind_of_ok first] at error
          cases later : (ofProperties resolve rest path).outcome with
          | error other =>
              rw [Attempt.bind_of_error later] at error
              obtain rfl := Except.error.inj error
              obtain ⟨found, member, fails⟩ := ih later
              exact ⟨found, .tail _ member, fails⟩
          | ok others => rw [Attempt.bind_of_ok later] at error; cases error

/-- Properties fail only where one of them halts. -/
theorem stops_of_ofProperties {properties : Entries Json} {path : Path}
    (error : (ofProperties resolve properties path).outcome = .error failure)
    : failure.Stops := by
  obtain ⟨_, _, _, stops⟩ := entry_of_ofProperties error
  exact stops

/-- The properties of an object are lost only with the whole translation. -/
theorem stops_of_propertiesOf {source : Entries Json} {path : Path}
    (error : (propertiesOf resolve source path).outcome = .error failure)
    : failure.Stops := by
  rw [propertiesOf_eq] at error
  split at error
  · cases error
  · next properties found =>
      cases translated : (ofProperties resolve properties path).outcome with
      | ok kept =>
          rw [Attempt.map_eq_bind, Attempt.bind_of_ok translated] at error
          cases error
      | error other =>
          rw [Attempt.map_eq_bind, Attempt.bind_of_error translated] at error
          obtain rfl := Except.error.inj error
          exact stops_of_ofProperties translated
  · obtain rfl := Except.error.inj error
    trivial

/-- Properties halt where one of them halts. -/
theorem halts_ofProperties {properties : Entries Json} {path : Path} {entry : String × Json}
    (member : entry ∈ properties) (halts : (ofNode resolve entry.2 (.property path entry.1)).Halts)
    : (ofProperties resolve properties path).Halts := by
  induction properties with
  | nil => cases member
  | cons head rest ih =>
      rw [ofProperties_cons]
      rcases List.mem_cons.mp member with rfl | later
      · exact halts.orSkip.bind
      · cases first : (ofNode resolve head.2 (.property path head.1)).orSkip.outcome with
        | error other =>
            exact Attempt.Halts.bind ⟨other, first, (Attempt.outcome_orSkip_eq_error.mp first).2⟩
        | ok kept? => exact .bind_of_ok first (ih later).bind

/-- The required names of an object with readable ones are read. -/
theorem requiredNames_of_readable {source : Entries Json} (path : Path)
    (readable
      : ∀ raw, source.lookup "required" = some raw → ∃ names, raw.strings? = some names)
    : ∃ names, (requiredNames source path).outcome = .ok names := by
  unfold requiredNames
  split
  · exact ⟨[], rfl⟩
  · next raw found =>
      obtain ⟨names, read⟩ := readable raw found
      exact ⟨sortedNames names, by rw [read]; rfl⟩

/-- The translation of an object is the annotated translation of its parts. -/
theorem ofNode_object {source : Entries Json} (object : ObjectNode source) (path : Path)
    : ofNode resolve (.object source) path
      = ofObject resolve source path >>= fun shape => .ofCheck path (shape.annotated source) := by
  rw [ofNode_of_no_keyword resolve path object.free,
    ofShape_object resolve path object.own object.typed]

/-- Where the translation of a node that it goes on to halts, the translation halts. -/
theorem Descends.halts {place next : Place} (step : Descends place next)
    (halts : (ofNode resolve next.node next.path).Halts)
    : (ofNode resolve place.node place.path).Halts := by
  cases step with
  | items list found =>
      rw [ofNode_of_no_keyword resolve _ list.free, ofShape_array resolve _ list.own list.typed,
        found]
      exact halts.bind.bind
  | @property source properties name node path object found member =>
      rw [ofNode_object object, ofObject]
      obtain ⟨names, read⟩ := requiredNames_of_readable path object.readable
      refine .bind (.bind_of_ok read (.bind ?_))
      rw [propertiesOf_eq, found]
      exact (halts_ofProperties member halts).map
  | @values source values path object properties found =>
      rw [ofNode_object object, ofObject]
      obtain ⟨names, read⟩ := requiredNames_of_readable path object.readable
      refine .bind (.bind_of_ok read ?_)
      cases translated : (propertiesOf resolve source path).outcome with
      | ok properties? =>
          refine .bind_of_ok translated (.bind ?_)
          rw [valuesOf_eq, found]
          exact halts.map
      | error failure =>
          exact .bind ⟨failure, translated, stops_of_propertiesOf translated⟩

/-- Where what a reference leads to halts, the translation of a node with the reference halts. -/
theorem Refers.halts {source : Entries Json} {reference : Reference} {path : Path}
    (refers : Refers source reference) (halts : (resolve reference path).Halts)
    : (ofNode resolve (.object source) path).Halts := by
  obtain ⟨free, text, found, rfl⟩ := refers
  rw [ofNode_of_no_keyword resolve path free, ofShape_of_reference resolve path found]
  exact halts.bind

/-- Where the translation halts at a node that it goes on to, it halts, by induction over the way
to the node.
-/
theorem halts_of_descent {place next : Place} (way : Relation.ReflTransGen Descends place next)
    (halts : (ofNode resolve next.node next.path).Halts)
    : (ofNode resolve place.node place.path).Halts := by
  induction way using Relation.ReflTransGen.head_induction_on with
  | refl => exact halts
  | head step _ ih => exact step.halts ih

end Schema

end ComponentCrd
