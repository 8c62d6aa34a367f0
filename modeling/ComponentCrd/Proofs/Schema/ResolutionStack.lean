import ComponentCrd.Proofs.Schema.ErrorWording
import ComponentCrd.Proofs.Schema.PreflightWalk
import ComponentCrd.Proofs.Schema.Translator

/-! A translator leaves its stack as it found it, however its work ends and wherever it begins, and
its list of issues only gets longer. A reference is taken off the stack without a look at who put it
there; but one that is on the stack is refused and not resolved, so that none is ever taken off that
was there before. The translators of all parts do what the attempts with the stack as their trail
do, and a component is translated by such a translator.
-/

namespace ComponentCrd

namespace Schema

variable {resolve : Reference → Path → Attempt Schema} {source : Entries Json} {path : Path}

/-- Translates the shape that a type says. -/
def ofType (resolve : Reference → Path → Attempt Schema) (source : Entries Json) (type : Json)
    (path : Path) : Attempt Schema :=
  match type with
  | .string "array" =>
      match source.lookup "items" with
      | some (.object items) =>
          ofNode resolve (.object items) (.items path) >>= fun items => pure (.array items {})
      | _ => .refuse path .itemsNotObject
  | .string "object" => ofObject resolve source path
  | .string name =>
      match ScalarType.ofName? name with
      | some type => pure (.scalar type {})
      | none => .refuse path (.unknownType name)
  | _ => .refuse path .typeNotString

/-- The shape of a node without a reference is the one that its type says. -/
theorem ofShape_of_type {type : Json} (own : source.lookup "$ref" = none)
    (found : source.lookup "type" = some type)
    : ofShape resolve source path = ofType resolve source type path := by
  cases type with
  | string name =>
      by_cases array : name = "array"
      · subst array
        exact ofShape_array resolve path own found
      · by_cases object : name = "object"
        · subst object
          exact ofShape_object resolve path own found
        · rw [ofShape_scalar resolve path own found array object]
          cases scalar : ScalarType.ofName? name <;> simp only [ofType, scalar]
  | null | bool _ | number _ | array _ | object _ =>
      rw [ofShape, own, found]
      rfl

end Schema

namespace Translator

variable {α : Type} {token : String} {stack : Finset String}
  {refer : String → Path → Translator Schema} {resolve : Reference → Path → Attempt Schema}
  {source : Entries Json} {path : Path}

-----------------------------------------------------------------------------------------
-- The parts of a node
-----------------------------------------------------------------------------------------

theorem performs_requiredNames
    : Performs token stack (requiredNames token source path)
        (Schema.requiredNames source path) := by
  unfold requiredNames Schema.requiredNames
  cases source.lookup "required" with
  | none => exact performs_pure []
  | some raw =>
      dsimp only
      cases raw.strings? with
      | some names => exact performs_pure _
      | none => exact performs_reject .requiredNotNames

theorem performs_properties {entries : Entries Json}
    (each
      : ∀ entry ∈ entries,
          Performs token stack (node refer token entry.2 (.property path entry.1))
            (Schema.ofNode resolve entry.2 (.property path entry.1)))
    : Performs token stack (properties refer token entries path)
        (Schema.ofProperties resolve entries path) := by
  induction entries with
  | nil =>
      rw [properties, Schema.ofProperties]
      exact performs_pure []
  | cons entry rest ih =>
      obtain ⟨name, value⟩ := entry
      rw [properties, Schema.ofProperties_cons]
      refine (each _ (.head _)).orSkip.bind fun kept? => Performs.bind ?_ fun others => ?_
      · exact ih fun later member => each later (.tail _ member)
      · exact performs_pure _

section

variable
  (below
    : ∀ value, sizeOf value < sizeOf source → ∀ path,
        Performs token stack (node refer token value path) (Schema.ofNode resolve value path))

include below

/-- An object is translated as the attempt does it, if the nodes below it are. -/
theorem performs_object
    : Performs token stack (object refer token source path)
        (Schema.ofObject resolve source path) := by
  rw [object_eq, Schema.ofObject, Schema.propertiesOf_eq, Schema.valuesOf_eq]
  refine performs_requiredNames.bind fun required => Performs.bind ?_ fun properties? =>
    Performs.bind ?_ fun values? => performs_pure _
  · cases found : source.lookup "properties" with
    | none => exact performs_pure none
    | some value =>
        cases value with
        | object entries =>
            refine (performs_properties fun entry member => below _ ?_ _).map some
            have inside := Entries.sizeOf_members_lt found
            have smaller := List.sizeOf_lt_of_mem member
            rw [Prod.mk.sizeOf_spec] at smaller
            omega
        | null | bool _ | number _ | string _ | array _ =>
            exact performs_malformed .propertiesNotObject
  · cases found : source.lookup "additionalProperties" with
    | none => exact performs_pure none
    | some value =>
        cases value with
        | object values => exact (below _ (Entries.sizeOf_lt_of_lookup found) _).map some
        | null | bool _ | number _ | string _ | array _ => exact performs_reject .valuesNotObject

theorem performs_typed (type : Json)
    : Performs token stack (typed refer token source type path)
        (Schema.ofType resolve source type path) := by
  cases type with
  | string name =>
      by_cases array : name = "array"
      · subst array
        rw [typed_array, Schema.ofType]
        cases found : source.lookup "items" with
        | none => exact performs_reject .itemsNotObject
        | some value =>
            cases value with
            | object items =>
                refine (below _ (Entries.sizeOf_lt_of_lookup found) _).bind fun items => ?_
                exact performs_pure _
            | null | bool _ | number _ | string _ | array _ =>
                exact performs_reject .itemsNotObject
      · by_cases object : name = "object"
        · subst object
          rw [typed, Schema.ofType]
          exact performs_object below
        · rw [typed, Schema.ofType]
          · cases ScalarType.ofName? name with
            | some type => exact performs_pure _
            | none => exact performs_reject _
          all_goals assumption
  | null | bool _ | number _ | array _ | object _ =>
      rw [typed.eq_def]
      exact performs_reject .typeNotString

end

/-- A node is translated as the attempt does it, if references are. By recursion on the nodes below.
-/
theorem performs_node
    (references
      : ∀ text path,
          Performs token stack (refer text path) (resolve (.ofText text) path))
    (value : Json) (path : Path)
    : Performs token stack (node refer token value path) (Schema.ofNode resolve value path) := by
  cases value with
  | object source =>
      -- The recursion: whatever the parts of this node ask for is smaller than the node.
      have below (value : Json) (smaller : sizeOf value < sizeOf source) (path : Path)
          : Performs token stack (node refer token value path) (Schema.ofNode resolve value path) :=
        performs_node references value path
      rw [node.eq_def]
      dsimp only
      cases keyword : Keyword.firstIn? source with
      | some found =>
          rw [Schema.ofNode_of_keyword resolve path keyword]
          exact performs_reject _
      | none =>
          rw [Schema.ofNode_of_no_keyword resolve path keyword]
          refine Performs.bind ?_ fun shape => performs_check _
          cases own : source.lookup "$ref" with
          | some value =>
              cases value with
              | string text =>
                  rw [Schema.ofShape_of_reference resolve path own]
                  exact references text path
              | null | bool _ | number _ | array _ | object _ =>
                  rw [Schema.ofShape, own]
                  exact performs_malformed _
          | none =>
              cases typed : source.lookup "type" with
              | some type =>
                  rw [Schema.ofShape_of_type own typed]
                  exact performs_typed below type
              | none =>
                  rw [Schema.ofShape, own, typed]
                  dsimp only
                  cases Entries.has source "enum" with
                  | true => exact performs_reject .enumWithoutType
                  | false => exact performs_reject .noShape
  | null | bool _ | number _ | string _ | array _ =>
      rw [node.eq_def, Schema.ofNode_of_not_object resolve path rfl]
      exact performs_malformed .notObject
termination_by sizeOf value
decreasing_by
  simp only [Json.object.sizeOf_spec] at *
  omega

-----------------------------------------------------------------------------------------
-- The stack and the trail
-----------------------------------------------------------------------------------------

/-- Of the references inside the package, those of the trail have their texts on the stack. -/
def OnTrail (stack : Finset String) (trail : List Reference) : Prop :=
  ∀ reference, reference.isLocal → (reference.text ∈ stack ↔ reference ∈ trail)

theorem onTrail_empty : OnTrail ∅ [] := by
  intro reference _
  simp

theorem OnTrail.push {trail : List Reference} {reference : Reference} (on : OnTrail stack trail)
    (inside : reference.isLocal)
    : OnTrail (insert reference.text stack) (reference :: trail) := by
  intro other otherInside
  have same : other.text = reference.text ↔ other = reference :=
    ⟨Reference.eq_of_text_eq otherInside inside, congrArg Reference.text⟩
  rw [Finset.mem_insert, List.mem_cons, same, on other otherInside]

/-- Every stack has a trail: the references that its texts lead to. -/
theorem exists_onTrail (stack : Finset String) : ∃ trail, OnTrail stack trail := by
  refine ⟨stack.toList.map .ofText, fun reference inside => ?_⟩
  rw [List.mem_map]
  constructor
  · intro member
    exact ⟨reference.text, Finset.mem_toList.mpr member, Reference.ofText_text inside⟩
  · rintro ⟨text, member, rfl⟩
    rw [Reference.text_ofText]
    exact Finset.mem_toList.mp member

variable {doc : Document} {trail : List Reference}

/-- A reference is translated as the attempt does it, if a node behind it that is not being resolved
yet is, with the reference on the stack and on the trail.
-/
theorem performs_referenceBy {behind : Json → Path → Translator Schema} {text : String}
    (on : OnTrail stack trail)
    (resolves
      : ∀ node,
          doc.standIn? (.ofText text) = some node
          → .ofText text ∉ trail
          → OnTrail (insert text stack) (.ofText text :: trail)
          → Performs token (insert text stack) (behind node path)
              (Schema.ofNode (doc.resolve (.ofText text :: trail)) node path))
    : Performs token stack (referenceBy doc token behind text path)
        (doc.resolve trail (.ofText text) path) := by
  unfold referenceBy
  cases inside : (Reference.ofText text).isLocal with
  | false =>
      obtain ⟨other, external⟩ := Reference.eq_external_of_not_isLocal inside
      rw [external, Document.resolve_external]
      exact performs_pure _
  | true =>
      have onStack : text ∈ stack ↔ .ofText text ∈ trail := by
        rw [← on _ inside, Reference.text_ofText]
      have onTrail := on.push inside
      rw [Reference.text_ofText] at onTrail
      dsimp only
      rw [if_pos inside, doc.resolve_local trail path inside]
      refine Performs.look fun skipped => ?_
      -- Only a text that is not on the stack is put there, so taking it off restores the stack.
      by_cases seen : text ∈ stack
      · rw [if_pos seen, if_pos (onStack.mp seen)]
        exact performs_reject _
      · have fresh : .ofText text ∉ trail := fun earlier => seen (onStack.mpr earlier)
        rw [if_neg seen, if_neg fresh]
        cases found : doc.standIn? (.ofText text) with
        | none => exact performs_malformed _
        | some node => exact (resolves node found fresh onTrail).resolving seen

/-- A reference is translated as the attempt does it, if the depth is not below the number of
references that are not on the trail. By induction over the depth: one that is resolved is on the
trail of the node behind it.
-/
theorem performs_reference {depth : Nat} (on : OnTrail stack trail)
    (enough : doc.unvisited trail ≤ depth) (text : String) (path : Path)
    : Performs token stack (reference doc token depth text path)
        (doc.resolve trail (.ofText text) path) := by
  induction depth generalizing stack trail text path with
  | zero =>
      refine performs_referenceBy on fun node found fresh _ => ?_
      have fewer := Document.unvisited_cons_lt (doc.mem_references_of_standIn? found) fresh
      omega
  | succ depth ih =>
      refine performs_referenceBy on fun node found fresh onTrail => ?_
      have fewer := Document.unvisited_cons_lt (doc.mem_references_of_standIn? found) fresh
      exact performs_node (ih onTrail (by omega)) node path

-----------------------------------------------------------------------------------------
-- The stack is restored
-----------------------------------------------------------------------------------------

/-- Wherever it begins, the translator ends, with a result or an error, with the stack that it began
with, and with the issues that it began with and perhaps others behind them. Its ending and these
other issues are the ones of the attempt with the stack as its trail.
-/
structure Restores (token : String) (translator : Translator α)
    (attempt : List Reference → Attempt α)
    : Prop where
  restored
    : ∀ before, ∃ ending after,
        translator.run.run before = some (ending, after)
        ∧ after.stack = before.stack
        ∧ before.skipped <+: after.skipped
  faithful
    : ∀ before trail,
        OnTrail before.stack trail
        → translator.run.run before
          = some
              ((attempt trail).ending token,
                ⟨before.stack, before.skipped ++ (attempt trail).issues token⟩)

/-- A translator that does what attempts do with every stack restores the stack. -/
theorem restores_of_performs {translator : Translator α} {attempt : List Reference → Attempt α}
    (performs
      : ∀ stack trail,
          OnTrail stack trail
          → Performs token stack translator (attempt trail))
    : Restores token translator attempt where
  restored before := by
    obtain ⟨trail, on⟩ := exists_onTrail before.stack
    exact ⟨_, _, performs _ trail on before.skipped, rfl, List.prefix_append _ _⟩
  faithful before trail on := performs _ trail on before.skipped

end Translator

namespace Document

/-- Translates a component with a translator that begins with nothing on its stack, if that ends. -/
def translateAtWork (doc : Document) (depth : Nat) (component : Component) :
    Option (Except TranslationError Translation) := do
  let inputs := component.resource.inputProperties
  let refer := Translator.reference doc component.token depth
  let (ending, after) ← (Translator.properties refer component.token inputs .spec).run.run {}
  return do
    let properties ← ending
    let skipped := SkipIssue.sorted after.skipped
    if properties.isEmpty && !skipped.isEmpty then
      throw (.nothingTranslatable component.token skipped)
    else
      let required := component.resource.normalizedRequired.filter (properties.has ·)
      return ⟨.object (some properties) none required {}, skipped⟩

/-- The stack is restored: by the translator of a node, of a reference, of the shape that a type
says, of an object and of properties, each of which does what the attempt at the same does; and by
such a translator every component is translated. The depth has no say in it, if the document has no
more references than it allows to be resolved one inside the other.
-/
structure StackRestored (doc : Document) : Prop where
  node
    : ∀ depth ≥ doc.references.length, ∀ token value path,
        Translator.Restores token
          (Translator.node (Translator.reference doc token depth) token value path)
          fun trail => Schema.ofNode (doc.resolve trail) value path
  reference
    : ∀ depth ≥ doc.references.length, ∀ token text path,
        Translator.Restores token (Translator.reference doc token depth text path)
          fun trail => doc.resolve trail (.ofText text) path
  typed
    : ∀ depth ≥ doc.references.length, ∀ token source type path,
        Translator.Restores token
          (Translator.typed (Translator.reference doc token depth) token source type path)
          fun trail => Schema.ofType (doc.resolve trail) source type path
  object
    : ∀ depth ≥ doc.references.length, ∀ token source path,
        Translator.Restores token
          (Translator.object (Translator.reference doc token depth) token source path)
          fun trail => Schema.ofObject (doc.resolve trail) source path
  properties
    : ∀ depth ≥ doc.references.length, ∀ token entries path,
        Translator.Restores token
          (Translator.properties (Translator.reference doc token depth) token entries path)
          fun trail => Schema.ofProperties (doc.resolve trail) entries path
  component
    : ∀ depth ≥ doc.references.length, ∀ component,
        doc.translateAtWork depth component = some (doc.translate component)

open Translator

variable (doc : Document) {depth : Nat} (enough : depth ≥ doc.references.length)

include enough

/-- With depth enough for all references of the document a reference is translated as the attempt
does it, whatever is on the trail.
-/
theorem performs_reference {token : String} {stack : Finset String} {trail : List Reference}
    (on : OnTrail stack trail) (text : String) (path : Path)
    : Performs token stack (Translator.reference doc token depth text path)
        (doc.resolve trail (.ofText text) path) :=
  Translator.performs_reference on (Nat.le_trans List.countP_le_length enough) text path

/-- A component is translated with one translator for all its properties. -/
theorem translateAtWork_eq (component : Component)
    : doc.translateAtWork depth component = some (doc.translate component) := by
  have performs
      : Performs component.token ∅
          (properties (reference doc component.token depth) component.token
            component.resource.inputProperties .spec)
          (doc.attemptInputs component) :=
    performs_properties fun entry _ =>
      performs_node (doc.performs_reference enough onTrail_empty) entry.2 _
  unfold translateAtWork
  dsimp only
  rw [performs, Attempt.ending]
  cases outcome : (doc.attemptInputs component).outcome with
  | ok kept =>
      rw [translate_of_inputs outcome]
      rfl
  | error failure =>
      unfold attemptInputs at outcome
      cases failure <;>
        · simp only [translate, outcome]
          rfl

omit enough

/-- Every translator of a document restores its stack. -/
theorem stackRestored (doc : Document) : doc.StackRestored := by
  have nodes {depth : Nat} (enough : depth ≥ doc.references.length) {token : String}
      {stack : Finset String} {trail : List Reference} (on : OnTrail stack trail)
      : ∀ value path,
          Performs token stack (node (reference doc token depth) token value path)
            (Schema.ofNode (doc.resolve trail) value path) :=
    performs_node (doc.performs_reference enough on)
  refine ⟨?_, ?_, ?_, ?_, ?_, fun _ enough => doc.translateAtWork_eq enough⟩
  · intro depth enough token value path
    exact restores_of_performs fun stack trail on => nodes enough on value path
  · intro depth enough token text path
    exact restores_of_performs fun stack trail on => doc.performs_reference enough on text path
  · intro depth enough token source type path
    exact restores_of_performs fun stack trail on =>
      performs_typed (fun value _ => nodes enough on value) type
  · intro depth enough token source path
    exact restores_of_performs fun stack trail on =>
      performs_object fun value _ => nodes enough on value
  · intro depth enough token entries path
    exact restores_of_performs fun stack trail on =>
      performs_properties fun entry _ => nodes enough on entry.2 _

end Document

end ComponentCrd
