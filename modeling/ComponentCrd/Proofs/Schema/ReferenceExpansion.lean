import ComponentCrd.Proofs.Schema.Agreement
import ComponentCrd.Proofs.Schema.PreflightSafety
import ComponentCrd.Proofs.Schema.Provenance

/-! References are transparent. A node that is nothing but a reference may be replaced by the node
that stands behind the reference, wherever it stands, and the component is translated to the same
schema, with the same issues or the same error. The one thing that the replacement takes away is a
reference on the trail, and the trail is asked for cycles only; so the exception is a component that
is refused for a cycle.
-/

namespace ComponentCrd.Document

open Schema

-----------------------------------------------------------------------------------------
-- One reference replaced by what stands behind it
-----------------------------------------------------------------------------------------

/-- The second node is the first one with one reference replaced by the node that stands behind it.
The reference stands alone in its node, which is the first node itself or lies below it, as one of
its properties, its items or its other values.
-/
inductive Expands (doc : Document) : Json → Json → Prop
  | here {text target} (found : doc.standIn? (.ofText text) = some target)
    : doc.Expands (.object [("$ref", .string text)]) target
  | property {before after first last name node expanded}
    (below : doc.Expands node expanded)
    : doc.Expands
        (.object (before ++ ("properties", .object (first ++ (name, node) :: last)) :: after))
        (.object (before ++ ("properties", .object (first ++ (name, expanded) :: last)) :: after))
  | items {before after node expanded} (below : doc.Expands node expanded)
    : doc.Expands (.object (before ++ ("items", node) :: after))
        (.object (before ++ ("items", expanded) :: after))
  | values {before after node expanded} (below : doc.Expands node expanded)
    : doc.Expands (.object (before ++ ("additionalProperties", node) :: after))
        (.object (before ++ ("additionalProperties", expanded) :: after))

/-- The second component is the first one with one reference below its input properties replaced by
the node that stands behind it.
-/
inductive ExpandsInputs (doc : Document) : Component → Component → Prop
  | intro {token isComponent required first last name node expanded}
    (below : doc.Expands node expanded)
    : doc.ExpandsInputs
        ⟨token, { isComponent, inputProperties := first ++ (name, node) :: last,
                  requiredInputs := required }⟩
        ⟨token, { isComponent, inputProperties := first ++ (name, expanded) :: last,
                  requiredInputs := required }⟩

/-- What stands behind a reference is an object. -/
theorem isObject_of_standIn? {doc : Document} {reference : Reference} {node : Json}
    (found : doc.standIn? reference = some node)
    : ∃ source, node = .object source := by
  unfold standIn? at found
  split at found
  · exact ⟨_, (Option.some.inj found).symm⟩
  · exact ⟨_, (Option.some.inj found).symm⟩
  · cases found

/-- A node with a reference below it is an object, and so is the expanded node. -/
theorem Expands.objects {doc : Document} {node expanded : Json}
    (expands : doc.Expands node expanded)
    : ∃ source other, node = .object source ∧ expanded = .object other := by
  cases expands with
  | here found =>
      obtain ⟨other, rfl⟩ := isObject_of_standIn? found
      exact ⟨_, other, rfl, rfl⟩
  | property => exact ⟨_, _, rfl, rfl⟩
  | items => exact ⟨_, _, rfl, rfl⟩
  | values => exact ⟨_, _, rfl, rfl⟩

-----------------------------------------------------------------------------------------
-- The trail is asked for cycles only
-----------------------------------------------------------------------------------------

/-- The failure is a reference that closes a cycle. -/
def IsCyclic (failure : Failure) : Prop :=
  ∃ path reference, failure = .unsupported ⟨path, .cyclic reference⟩

theorem IsCyclic.stops (failure : Failure) (cyclic : IsCyclic failure) : failure.Stops := by
  obtain ⟨path, reference, rfl⟩ := cyclic
  rfl

/-- With fewer references on the trail a node is translated alike, unless it is refused for a cycle.
By recursion over the references that are not on the trail: the trails grow alike.
-/
theorem agreesAt_of_subset (doc : Document) {trail longer : List Reference}
    (included : trail ⊆ longer) (place : Place)
    : AgreesAt IsCyclic (doc.resolve longer) (doc.resolve trail) place.path place.node
        place.node := by
  apply agreesAt_of_references IsCyclic.stops place
  intro source origin reference _ _
  cases inside : reference.isLocal with
  | false =>
      obtain ⟨text, rfl⟩ := Reference.eq_external_of_not_isLocal inside
      rw [resolve_external, resolve_external]
      exact .refl _
  | true =>
      rw [resolve_local doc longer origin inside, resolve_local doc trail origin inside]
      by_cases seen : reference ∈ longer
      · rw [if_pos seen]
        exact .inl ⟨_, rfl, origin, reference, rfl⟩
      · rw [if_neg seen, if_neg fun earlier => seen (included earlier)]
        cases found : doc.standIn? reference with
        | none => exact .refl _
        | some node =>
            have := unvisited_cons_lt (mem_references_of_standIn? found) seen
            have grown : reference :: trail ⊆ reference :: longer :=
              List.cons_subset_cons reference included
            exact agreesAt_of_subset doc grown ⟨node, origin⟩
termination_by doc.unvisited longer

-----------------------------------------------------------------------------------------
-- Members in the middle of a node
-----------------------------------------------------------------------------------------

section

variable {α : Type} {before after : Entries α} {key : String} {value other : α}

/-- Another value in one entry makes no difference to the other names. -/
theorem lookup_middle_of_ne {name : String} (differs : name ≠ key)
    : (before ++ (key, value) :: after).lookup name
      = (before ++ (key, other) :: after).lookup name := by
  have skipped : (name == key) = false := by simpa using differs
  simp only [List.lookup_append, List.lookup_cons, skipped]

theorem lookup_middle
    : (before ++ (key, value) :: after).lookup key = (before.lookup key).or (some value) := by
  simp only [List.lookup_append, List.lookup_cons, beq_self_eq_true]

end

variable {excused : Failure → Prop} {resolve : Reference → Path → Attempt Schema} {path : Path}

theorem childAgrees_refl (value? : Option Json)
    : ChildAgrees excused resolve resolve path value? value? := by
  by_cases node : ∃ source, value? = some (.object source)
  · obtain ⟨source, rfl⟩ := node
    exact .node (.refl _)
  · exact .same fun source found => node ⟨source, found⟩

theorem membersAgree_refl (value? : Option Json)
    : MembersAgree excused resolve resolve path value? value? := by
  by_cases properties : ∃ members, value? = some (.object members)
  · obtain ⟨members, rfl⟩ := properties
    exact .properties (List.forall₂_same.mpr fun entry _ => ⟨rfl, .refl _⟩)
  · exact .same fun members found => properties ⟨members, found⟩

/-- Properties agree where one of them has another value that agrees. -/
theorem propertiesAgree_middle {first last : Entries Json} {name : String} {node other : Json}
    (agrees : ∀ path, AgreesAt excused resolve resolve path node other)
    : PropertiesAgree excused resolve resolve path (first ++ (name, node) :: last)
        (first ++ (name, other) :: last) := by
  have same (entries : Entries Json)
      : PropertiesAgree excused resolve resolve path entries entries :=
    List.forall₂_same.mpr fun entry _ => ⟨rfl, .refl _⟩
  exact List.rel_append (same first) (.cons ⟨rfl, agrees _⟩ (same last))

-----------------------------------------------------------------------------------------
-- Expanded nodes are translated alike
-----------------------------------------------------------------------------------------

/-- A node that is nothing but a reference is translated as what the reference leads to. -/
theorem ofNode_reference (resolve : Reference → Path → Attempt Schema) (text : String) (path : Path)
    : ofNode resolve (.object [("$ref", .string text)]) path = resolve (.ofText text) path := by
  have alone (schema : Schema) : schema.annotated [("$ref", .string text)] = .ok schema := by
    cases schema <;> rfl
  rw [ofNode_of_no_keyword resolve path rfl, ofShape_of_reference resolve path rfl]
  simp only [alone, Attempt.ofCheck]
  exact Attempt.bind_pure _

variable {doc : Document}

section

variable {before after : Entries Json} {key : String}

/-- What is no node is the same beside a changed node. -/
theorem lookup_beside {value other : Json} {name : String} (nested : key ∈ nestedNames)
    (outside : name ∉ nestedNames)
    : (before ++ (key, value) :: after).lookup name
      = (before ++ (key, other) :: after).lookup name := by
  apply lookup_middle_of_ne
  rintro rfl
  exact outside nested

/-- A node under another name than that of a changed member is the same. -/
theorem childAgrees_beside {value other : Json} {name : String} (differs : name ≠ key)
    : ChildAgrees excused resolve resolve path ((before ++ (key, value) :: after).lookup name)
        ((before ++ (key, other) :: after).lookup name) := by
  rw [lookup_middle_of_ne differs]
  exact childAgrees_refl _

/-- The properties beside a changed member are the same. -/
theorem membersAgree_beside {value other : Json} (differs : "properties" ≠ key)
    : MembersAgree excused resolve resolve path
        ((before ++ (key, value) :: after).lookup "properties")
        ((before ++ (key, other) :: after).lookup "properties") := by
  rw [lookup_middle_of_ne differs]
  exact membersAgree_refl _

/-- A node that a member holds is translated alike when the member is expanded, if no member before
it hides it.
-/
theorem childAgrees_middle {node expanded : Json} (expands : doc.Expands node expanded)
    (agrees : ∀ path, AgreesAt excused resolve resolve path node expanded)
    : ChildAgrees excused resolve resolve path ((before ++ (key, node) :: after).lookup key)
        ((before ++ (key, expanded) :: after).lookup key) := by
  rw [lookup_middle, lookup_middle]
  cases before.lookup key with
  | some hidden => exact childAgrees_refl _
  | none =>
      obtain ⟨source, other, rfl, rfl⟩ := expands.objects
      exact .node (agrees path)

/-- Properties that agree do so as a member of a node. -/
theorem membersAgree_middle {members twins : Entries Json}
    (agree : PropertiesAgree excused resolve resolve path members twins)
    : MembersAgree excused resolve resolve path
        ((before ++ ("properties", .object members) :: after).lookup "properties")
        ((before ++ ("properties", .object twins) :: after).lookup "properties") := by
  rw [lookup_middle, lookup_middle]
  cases before.lookup "properties" with
  | some hidden => exact membersAgree_refl _
  | none => exact .properties agree

end

/-- Expanded nodes are translated alike, unless they are refused for a cycle. By induction on where
the reference stands: behind the reference the trail has one reference more, and around it nothing
else differs.
-/
theorem Expands.agreesAt {node expanded : Json} (expands : doc.Expands node expanded)
    : ∀ path, AgreesAt IsCyclic (doc.resolve []) (doc.resolve []) path node expanded := by
  induction expands with
  | @here text target found =>
      intro path
      unfold AgreesAt
      rw [ofNode_reference, resolve_local doc [] path (isLocal_of_standIn? found), found]
      exact agreesAt_of_subset doc (List.nil_subset _) ⟨target, path⟩
  | property below ih =>
      intro path
      apply SourcesAgree.agreesAt _ IsCyclic.stops
      constructor
      case own => exact fun name outside => lookup_beside (by decide) outside
      case reference => exact fun _ _ => .refl _
      case items => exact fun _ => childAgrees_beside (by decide)
      case properties => exact fun _ => membersAgree_middle (propertiesAgree_middle ih)
      case values => exact fun _ _ => childAgrees_beside (by decide)
  | items below ih =>
      intro path
      apply SourcesAgree.agreesAt _ IsCyclic.stops
      constructor
      case own => exact fun name outside => lookup_beside (by decide) outside
      case reference => exact fun _ _ => .refl _
      case items => exact fun _ => childAgrees_middle below ih
      case properties => exact fun _ => membersAgree_beside (by decide)
      case values => exact fun _ _ => childAgrees_beside (by decide)
  | values below ih =>
      intro path
      apply SourcesAgree.agreesAt _ IsCyclic.stops
      constructor
      case own => exact fun name outside => lookup_beside (by decide) outside
      case reference => exact fun _ _ => .refl _
      case items => exact fun _ => childAgrees_beside (by decide)
      case properties => exact fun _ => membersAgree_beside (by decide)
      case values => exact fun _ _ => childAgrees_middle below ih

-----------------------------------------------------------------------------------------
-- Expanded components
-----------------------------------------------------------------------------------------

variable {component expanded : Component}

/-- An attempt that ends at a cycle refuses the component for the cycle. -/
theorem translate_of_cyclic {path : Path} {reference : Reference}
    (cyclic
      : (doc.attemptInputs component).outcome = .error (.unsupported ⟨path, .cyclic reference⟩))
    : ∃ construct,
        doc.translate component = .error (.unsupported construct)
        ∧ construct.summary = "cyclic local ref \"" ++ reference.text ++ "\"" := by
  unfold attemptInputs at cyclic
  refine ⟨(Refusal.mk path (.cyclic reference)).unsupported component.token, ?_, rfl⟩
  simp only [translate, cyclic]

/-- A component that is not refused for a cycle is translated to the same schema with the same
issues, or refused with the same error, when one of its references is replaced by the node that
stands behind it.
-/
theorem translate_of_expandsInputs (expands : doc.ExpandsInputs component expanded)
    (acyclic
      : ∀ construct text, doc.translate component = .error (.unsupported construct)
          → construct.summary ≠ "cyclic local ref \"" ++ text ++ "\"")
    : doc.translate expanded = doc.translate component := by
  have unexcused
      : ∀ failure, (doc.attemptInputs component).outcome = .error failure
          → ¬ IsCyclic failure := by
    rintro _ fails ⟨path, reference, rfl⟩
    obtain ⟨construct, refused, summary⟩ := translate_of_cyclic fails
    exact acyclic construct _ refused summary
  cases expands with
  | @intro token isComponent required first last name node other below =>
      have agree
          : PropertiesAgree IsCyclic (doc.resolve []) (doc.resolve []) .spec
              (first ++ (name, node) :: last) (first ++ (name, other) :: last) :=
        propertiesAgree_middle below.agreesAt
      have same := (agree.agrees IsCyclic.stops).eq unexcused
      simp only [translate, Resource.normalizedRequired, ← same]

/-- A component with a list of what the node describes. -/
def listComponent (node : Json) : Component where
  token := "p:i:Thing"
  resource := {
    isComponent := true
    inputProperties := [
      ("bare", .object [("type", .string "array")]),
      ("stores", .object [("items", node), ("type", .string "array")])]
    requiredInputs := ["bare", "stores"] }

/-- The node that stands behind the store of the linked document. -/
def storeNode : Json :=
  .object [
    ("properties", .object [("link", .object [("$ref", .string "#/types/p:i:Link")])]),
    ("required", .array [.string "link"]),
    ("type", .string "object")]

/-- A reference to the store of the linked document. -/
def storeReference : Json := .object [("$ref", .string "#/resources/p:i:Store")]

/-- A list of stores is translated like a list of what a store is, beside a property that is left
out.
-/
theorem listComponent_expanded
    : linkedDocument.ExpandsInputs (listComponent storeReference) (listComponent storeNode)
      ∧ linkedDocument.translate (listComponent storeNode)
        = linkedDocument.translate (listComponent storeReference) := by
  have expands : linkedDocument.Expands storeReference storeNode := .here rfl
  have expandsInputs
      : linkedDocument.ExpandsInputs (listComponent storeReference) (listComponent storeNode) :=
    @ExpandsInputs.intro _ _ _ _ [("bare", _)] [] "stores" _ _
      (@Expands.items _ [] [("type", .string "array")] _ _ expands)
  have ok : (linkedDocument.translate (listComponent storeReference)).isOk := by decide +kernel
  refine ⟨expandsInputs, translate_of_expandsInputs expandsInputs fun construct text fails => ?_⟩
  rw [fails] at ok
  cases ok

end ComponentCrd.Document
