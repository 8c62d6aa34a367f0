import ComponentCrd.Proofs.Schema.Descent
import Mathlib.Data.List.Forall2

/-! When two translations agree. Two nodes are translated alike if they differ only in the nodes
below them, and these are translated alike, and so is what their reference leads to. Agreement may
leave out some failures that stop the first translation: where it ends with one of them, nothing is
said about the second.
-/

namespace ComponentCrd

namespace Attempt

variable {α β : Type} {excused : Failure → Prop} {attempt other : Attempt α}
  {next later : α → Attempt β}

/-- The attempts are the same, unless the first ends with a failure that is excused. -/
def AgreesUnless (excused : Failure → Prop) (attempt other : Attempt α) : Prop :=
  (∃ failure, attempt.outcome = .error failure ∧ excused failure) ∨ attempt = other

theorem AgreesUnless.refl (attempt : Attempt α) : attempt.AgreesUnless excused attempt := .inr rfl

/-- Agreeing attempts are the same where the first does not end with an excused failure. -/
theorem AgreesUnless.eq (agrees : attempt.AgreesUnless excused other)
    (unexcused : ∀ failure, attempt.outcome = .error failure → ¬ excused failure)
    : attempt = other := by
  rcases agrees with ⟨failure, fails, isExcused⟩ | same
  · exact (unexcused failure fails isExcused).elim
  · exact same

/-- Agreeing attempts agree when they go on alike. -/
theorem AgreesUnless.bind (agrees : attempt.AgreesUnless excused other)
    (goOn
      : ∀ result, attempt.outcome = .ok result
          → (next result).AgreesUnless excused (later result))
    : (attempt >>= next).AgreesUnless excused (other >>= later) := by
  rcases agrees with ⟨failure, fails, isExcused⟩ | rfl
  · exact .inl ⟨failure, by rw [bind_of_error fails], isExcused⟩
  · cases outcome : attempt.outcome with
    | error failure =>
        rw [bind_of_error outcome, bind_of_error outcome]
        exact .refl _
    | ok result =>
        rw [bind_of_ok outcome, bind_of_ok outcome]
        rcases goOn result outcome with ⟨failure, fails, isExcused⟩ | same
        · exact .inl ⟨failure, fails, isExcused⟩
        · rw [same]
          exact .refl _

theorem AgreesUnless.map (agrees : attempt.AgreesUnless excused other) (f : α → β)
    : (f <$> attempt).AgreesUnless excused (f <$> other) :=
  agrees.bind fun _ _ => .refl _

/-- Agreeing attempts agree when failures are passed over, if none that is excused is passed over.
-/
theorem AgreesUnless.orSkip (agrees : attempt.AgreesUnless excused other)
    (stops : ∀ failure, excused failure → failure.Stops)
    : attempt.orSkip.AgreesUnless excused other.orSkip := by
  rcases agrees with ⟨failure, fails, isExcused⟩ | rfl
  · have stopped := outcome_orSkip_eq_error.mpr ⟨fails, stops failure isExcused⟩
    exact .inl ⟨failure, stopped, isExcused⟩
  · exact .refl _

end Attempt

namespace Schema

/-- The names of the members that hold nodes. -/
def nestedNames : List String := ["properties", "items", "additionalProperties"]

-----------------------------------------------------------------------------------------
-- Nodes whose members agree
-----------------------------------------------------------------------------------------

section

variable (excused : Failure → Prop) (resolve other : Reference → Path → Attempt Schema)

/-- The translations of two nodes at the path agree. -/
def AgreesAt (path : Path) (node twin : Json) : Prop :=
  (ofNode resolve node path).AgreesUnless excused (ofNode other twin path)

/-- The members in the place of a single node agree: they are the same and no node, or they are two
nodes that agree.
-/
inductive ChildAgrees (path : Path) : Option Json → Option Json → Prop
  | same {value?} (noNode : ∀ source, value? ≠ some (.object source))
    : ChildAgrees path value? value?
  | node {source twin}
    (agrees : AgreesAt excused resolve other path (.object source) (.object twin))
    : ChildAgrees path (some (.object source)) (some (.object twin))

/-- The properties of two nodes agree: their names are the same, and so are their translations. -/
def PropertiesAgree (path : Path) (members twins : Entries Json) : Prop :=
  List.Forall₂
    (fun entry twin =>
      entry.1 = twin.1 ∧ AgreesAt excused resolve other (.property path entry.1) entry.2 twin.2)
    members twins

/-- The members in the place of properties agree. -/
inductive MembersAgree (path : Path) : Option Json → Option Json → Prop
  | same {value?} (noProperties : ∀ members, value? ≠ some (.object members))
    : MembersAgree path value? value?
  | properties {members twins} (agree : PropertiesAgree excused resolve other path members twins)
    : MembersAgree path (some (.object members)) (some (.object twins))

/-- Two nodes differ only in the nodes below them, and these agree as far as the translation goes on
to them, as does what their reference leads to.
-/
structure SourcesAgree (path : Path) (source twin : Entries Json) : Prop where
  own : ∀ name ∉ nestedNames, source.lookup name = twin.lookup name
  reference
    : ∀ reference, Refers source reference
        → (resolve reference path).AgreesUnless excused (other reference path)
  items
    : ListNode source
        → ChildAgrees excused resolve other (.items path) (source.lookup "items")
            (twin.lookup "items")
  properties
    : ObjectNode source
        → MembersAgree excused resolve other path (source.lookup "properties")
            (twin.lookup "properties")
  values
    : ObjectNode source
        → (∀ value, source.lookup "properties" = some value → value.isObject)
        → ChildAgrees excused resolve other (.values path) (source.lookup "additionalProperties")
            (twin.lookup "additionalProperties")

end

variable {excused : Failure → Prop} {resolve other : Reference → Path → Attempt Schema}
  {path : Path} {source twin members twins : Entries Json}

-----------------------------------------------------------------------------------------
-- What does not look at the nodes below
-----------------------------------------------------------------------------------------

/-- Keywords are looked for beside the nodes below. -/
theorem firstIn?_congr (own : ∀ name ∉ nestedNames, source.lookup name = twin.lookup name)
    : Keyword.firstIn? source = Keyword.firstIn? twin := by
  have same (keyword : Keyword) : source.has keyword.name = twin.has keyword.name := by
    have outside : keyword.name ∉ nestedNames := by cases keyword <;> decide
    rw [Entries.has, Entries.has, own keyword.name outside]
  simp only [Keyword.firstIn?, same]

/-- Annotations stand beside the nodes below. -/
theorem annotated_congr (own : ∀ name ∉ nestedNames, source.lookup name = twin.lookup name)
    (schema : Schema)
    : schema.annotated source = schema.annotated twin := by
  simp only [annotated, Annotations.update, Annotations.describe?,
    own "description" (by decide), own "default" (by decide), own "enum" (by decide)]

-----------------------------------------------------------------------------------------
-- The parts of a node
-----------------------------------------------------------------------------------------

/-- Properties that agree are translated alike, by induction over them. -/
theorem PropertiesAgree.agrees (stops : ∀ failure, excused failure → failure.Stops)
    (agree : PropertiesAgree excused resolve other path members twins)
    : (ofProperties resolve members path).AgreesUnless excused (ofProperties other twins path) := by
  unfold PropertiesAgree at agree
  induction agree with
  | nil =>
      rw [ofProperties, ofProperties]
      exact .refl _
  | @cons entry twin rest others first _ ih =>
      obtain ⟨name, node⟩ := entry
      obtain ⟨_, twin⟩ := twin
      obtain ⟨rfl, first⟩ := first
      rw [ofProperties_cons, ofProperties_cons]
      exact (first.orSkip stops).bind fun kept? _ => ih.bind fun later _ => .refl _

theorem agrees_propertiesOf (stops : ∀ failure, excused failure → failure.Stops)
    (agree
      : MembersAgree excused resolve other path (source.lookup "properties")
          (twin.lookup "properties"))
    : (propertiesOf resolve source path).AgreesUnless excused (propertiesOf other twin path) := by
  rw [propertiesOf_eq, propertiesOf_eq]
  generalize source.lookup "properties" = value? at agree
  generalize twin.lookup "properties" = twin? at agree
  cases agree with
  | properties agree => exact (agree.agrees stops).map some
  | same noProperties =>
      split
      · exact .refl _
      · next members => exact (noProperties members rfl).elim
      · exact .refl _

theorem agrees_valuesOf
    (agrees
      : ChildAgrees excused resolve other (.values path) (source.lookup "additionalProperties")
          (twin.lookup "additionalProperties"))
    : (valuesOf resolve source path).AgreesUnless excused (valuesOf other twin path) := by
  rw [valuesOf_eq, valuesOf_eq]
  generalize source.lookup "additionalProperties" = value? at agrees
  generalize twin.lookup "additionalProperties" = twin? at agrees
  cases agrees with
  | node agrees => exact agrees.map some
  | same noNode =>
      split
      · exact .refl _
      · next source => exact (noNode source rfl).elim
      · exact .refl _

/-- The required names of nodes that differ only below are the same. -/
theorem requiredNames_congr (same : source.lookup "required" = twin.lookup "required")
    : requiredNames source path = requiredNames twin path := by
  rw [requiredNames, requiredNames, same]

variable (agree : SourcesAgree excused resolve other path source twin)

include agree

theorem SourcesAgree.ofObject (stops : ∀ failure, excused failure → failure.Stops)
    (plain : Plain source) (typed : source.lookup "type" = some (.string "object"))
    : (ofObject resolve source path).AgreesUnless excused (ofObject other twin path) := by
  rw [Schema.ofObject, Schema.ofObject,
    ← requiredNames_congr (agree.own "required" (by decide))]
  refine (Attempt.AgreesUnless.refl _).bind fun names read => ?_
  have object : ObjectNode source := ⟨plain, typed, readable_of_requiredNames read⟩
  refine (agrees_propertiesOf stops (agree.properties object)).bind fun properties? translated => ?_
  have values := agrees_valuesOf (agree.values object (isObject_of_propertiesOf translated))
  exact values.bind fun values? _ => .refl _

/-- Shapes of nodes that differ only below are translated alike. Witness: the member that decides on
the shape stands beside the nodes below, so both take the same turn.
-/
theorem SourcesAgree.ofShape (stops : ∀ failure, excused failure → failure.Stops)
    (free : Keyword.firstIn? source = none)
    : (ofShape resolve source path).AgreesUnless excused (ofShape other twin path) := by
  have sameReference := agree.own "$ref" (by decide)
  have sameType := agree.own "type" (by decide)
  have sameEnum : source.has "enum" = twin.has "enum" := by
    rw [Entries.has, Entries.has, agree.own "enum" (by decide)]
  cases reference : source.lookup "$ref" with
  | some value =>
      rw [reference] at sameReference
      cases value with
      | string text =>
          rw [ofShape_of_reference resolve path reference,
            ofShape_of_reference other path sameReference.symm]
          exact agree.reference _ ⟨free, text, reference, rfl⟩
      | null | bool _ | number _ | array _ | object _ =>
          rw [Schema.ofShape, Schema.ofShape, reference, ← sameReference]
          exact .refl _
  | none =>
      rw [reference] at sameReference
      have plain : Plain source := ⟨free, reference⟩
      cases typed : source.lookup "type" with
      | none =>
          rw [Schema.ofShape, Schema.ofShape, reference, ← sameReference, ← sameType, typed,
            sameEnum]
          exact .refl _
      | some value =>
          rw [typed] at sameType
          cases value with
          | string name =>
              by_cases array : name = "array"
              · subst array
                rw [ofShape_array resolve path reference typed,
                  ofShape_array other path sameReference.symm sameType.symm]
                have items := agree.items ⟨plain, typed⟩
                generalize source.lookup "items" = value? at items
                generalize twin.lookup "items" = twin? at items
                cases items with
                | node agrees => exact agrees.bind fun _ _ => .refl _
                | same noNode =>
                    split
                    · next source => exact (noNode source rfl).elim
                    · exact .refl _
              · by_cases object : name = "object"
                · subst object
                  rw [ofShape_object resolve path reference typed,
                    ofShape_object other path sameReference.symm sameType.symm]
                  exact agree.ofObject stops plain typed
                · rw [ofShape_scalar resolve path reference typed array object,
                    ofShape_scalar other path sameReference.symm sameType.symm array object]
                  exact .refl _
          | null | bool _ | number _ | array _ | object _ =>
              rw [Schema.ofShape, Schema.ofShape, reference, ← sameReference, ← sameType, typed]
              exact .refl _

/-- Nodes that differ only below are translated alike. -/
theorem SourcesAgree.agreesAt (stops : ∀ failure, excused failure → failure.Stops)
    : AgreesAt excused resolve other path (.object source) (.object twin) := by
  have same := firstIn?_congr agree.own
  unfold AgreesAt
  cases keyword : Keyword.firstIn? source with
  | some found =>
      rw [keyword] at same
      rw [ofNode_of_keyword resolve path keyword, ofNode_of_keyword other path same.symm]
      exact .refl _
  | none =>
      rw [keyword] at same
      rw [ofNode_of_no_keyword resolve path keyword, ofNode_of_no_keyword other path same.symm]
      refine (agree.ofShape stops keyword).bind fun shape _ => ?_
      rw [annotated_congr agree.own]
      exact .refl _

omit agree

-----------------------------------------------------------------------------------------
-- One node under two ways to resolve references
-----------------------------------------------------------------------------------------

/-- A node is translated alike under two ways to resolve references if these agree on the references
that the translation of the node meets. By recursion on the nodes that the translation goes on to.
-/
theorem agreesAt_of_references (stops : ∀ failure, excused failure → failure.Stops) (place : Place)
    (references
      : ∀ source origin reference,
          Relation.ReflTransGen Descends place ⟨.object source, origin⟩
          → Refers source reference
          → (resolve reference origin).AgreesUnless excused (other reference origin))
    : AgreesAt excused resolve other place.path place.node place.node := by
  have below (next : Place) (step : Descends place next)
      : AgreesAt excused resolve other next.path next.node next.node := by
    have := step.sizeOf_lt
    apply agreesAt_of_references stops next
    intro source origin reference way refers
    exact references source origin reference (.head step way) refers
  obtain ⟨node, path⟩ := place
  cases node with
  | object source =>
      have child {value? : Option Json} {inner : Path}
          (step
            : ∀ members, value? = some (.object members)
                → Descends ⟨.object source, path⟩ ⟨.object members, inner⟩)
          : ChildAgrees excused resolve other inner value? value? := by
        by_cases node : ∃ members, value? = some (.object members)
        · obtain ⟨members, rfl⟩ := node
          exact .node (below ⟨.object members, inner⟩ (step members rfl))
        · exact .same fun members found => node ⟨members, found⟩
      refine SourcesAgree.agreesAt ⟨fun _ _ => rfl, ?_, ?_, ?_, ?_⟩ stops
      · intro reference refers
        exact references source path reference .refl refers
      · intro list
        exact child fun members found => .items list found
      · intro object
        by_cases some : ∃ members, source.lookup "properties" = some (.object members)
        · obtain ⟨members, found⟩ := some
          rw [found]
          refine .properties (List.forall₂_same.mpr fun entry member => ⟨rfl, ?_⟩)
          exact below ⟨entry.2, .property path entry.1⟩ (.property object found member)
        · exact .same fun members found => some ⟨members, found⟩
      · intro object properties
        exact child fun members found => .values object properties found
  | null | bool _ | number _ | string _ | array _ =>
      unfold AgreesAt
      rw [ofNode_of_not_object resolve path rfl, ofNode_of_not_object other path rfl]
      exact .refl _
termination_by sizeOf place.node

end Schema

end ComponentCrd
