import ComponentCrd.Schema.Preflight

/-! The check of a node, taken apart: its reference, its properties, and its two kinds of single
nodes below it are checked one after the other.
-/

namespace ComponentCrd.Preflight

/-- The check of the reference of a node. -/
def referencePart (follow : Reference → Path → Check) (source : Entries Json) (path : Path)
    : Check :=
  match source.lookup "$ref" with
  | none => pass
  | some (.string text) => follow (.ofText text) path
  | some _ => breach path .referenceNotString

/-- The check of the properties of a node. -/
def propertiesPart (follow : Reference → Path → Check) (source : Entries Json) (path : Path)
    : Check :=
  match source.lookup "properties" with
  | none => pass
  | some (.object members) => properties follow members path
  | some _ => breach path .propertiesNotObject

/-- The check of a single node below a member of the given name. -/
def childPart (follow : Reference → Path → Check) (source : Entries Json) (name : String)
    (path : Path) (violation : Violation)
    : Check :=
  match source.lookup name with
  | none => pass
  | some (.object child) => node follow (.object child) path
  | some _ => breach path violation

/-- The check of an object is the check of its four parts in order. -/
theorem node_object (follow : Reference → Path → Check) (source : Entries Json) (path : Path)
    : node follow (.object source) path
      = both (referencePart follow source path)
          (both (propertiesPart follow source path)
            (both (childPart follow source "items" (.items path) .itemsNotObject)
              (childPart follow source "additionalProperties" (.values path)
                .valuesNotObject))) := by
  rw [node]
  congr 1
  congr 1
  · unfold propertiesPart
    split <;> simp only [*]
  · congr 1
    · unfold childPart
      split <;> simp only [*]
    · unfold childPart
      split <;> simp only [*]

/-- A value that is no object fails the check. -/
theorem node_of_not_object (follow : Reference → Path → Check) {value : Json} (path : Path)
    (scalar : value.isObject = false)
    : node follow value path = breach path .notObject := by
  rw [node]
  rintro source rfl
  cases scalar

/-- Properties are checked one after the other, each as a node that has to be an object. -/
theorem properties_cons (follow : Reference → Path → Check) (name : String) (value : Json)
    (rest : Entries Json) (path : Path)
    : properties follow ((name, value) :: rest) path
      = both
          (if value.isObject then node follow value (.property path name)
            else breach (.property path name) .propertyNotObject)
          (properties follow rest path) := by
  cases value with
  | object source => rw [properties]; rfl
  | null | bool _ | number _ | string _ | array _ =>
      rw [properties]
      · rfl
      · rintro source ⟨⟩

end ComponentCrd.Preflight

namespace ComponentCrd.Document

open Preflight

/-- What is wrong with a reference that leads to nothing. -/
def dangling : Reference → Violation
  | .resource token => .unresolvedResource (.resource token)
  | reference => .unresolvedType reference

/-- The check of a target of a reference, at the path of the reference. -/
def targetPart (doc : Document) (follow : Reference → Path → Check) (reference : Reference)
    (path : Path)
    : Check :=
  match doc.target? reference with
  | some (.type value) =>
      if value.isObject then node follow value path else breach path (.typeNotObject reference)
  | some (.resource resource) => inputs follow resource.inputProperties path
  | none => breach path (dangling reference)

/-- A reference that leaves the package passes where a single component is checked. -/
theorem follow_external (doc : Document) (mode : Mode) (visiting : List Reference) (text : String)
    (path : Path)
    : doc.follow mode visiting (.external text) path
      = match mode with
        | .component => pass
        | .document => breach path (.outsideReference (.external text)) := by
  funext passed
  rw [follow.eq_def]
  cases mode <;> rfl

/-- A reference inside the package that is not seen yet passes after its target, which is checked
with the reference among those being visited.
-/
theorem follow_local (doc : Document) (mode : Mode) (visiting : List Reference)
    {reference : Reference} (path : Path) (passed : List Reference) (inside : reference.isLocal)
    : doc.follow mode visiting reference path passed
      = if reference ∈ passed ∨ reference ∈ visiting then .ok passed
        else
          (doc.targetPart (doc.follow mode (reference :: visiting)) reference path passed).map
            (reference :: ·) := by
  have proper : ∀ text, reference = .external text → False := by
    rintro text rfl
    simp [Reference.isLocal] at inside
  rw [follow]
  · split
    · rfl
    · unfold targetPart
      split
      · next source found =>
          simp only [found]
          rw [if_pos (show (Json.object source).isObject = true from rfl)]
          cases node (doc.follow mode (reference :: visiting)) (.object source) path passed <;> rfl
      · next value scalar found =>
          simp only [found, Json.isObject_eq_false scalar]
          rfl
      · next resource found =>
          simp only [found]
          cases inputs (doc.follow mode (reference :: visiting)) resource.inputProperties path
            passed <;> rfl
      · next missing =>
          simp only [missing]
          cases reference <;> rfl
  · exact proper

end ComponentCrd.Document
