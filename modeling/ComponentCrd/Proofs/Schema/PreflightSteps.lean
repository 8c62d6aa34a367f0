import ComponentCrd.Proofs.Schema.PreflightParts

/-! The check of a node as a list of steps. Apart from what its references lead to, a node asks for
nothing but that some references are followed, one after the other, up to a breach if there is one.
Which references these are is a matter of the node alone: the path it is met at only says where
they are followed.
-/

namespace ComponentCrd.Preflight

/-- A step of a check, at a place that is given from the path of the node: to follow a reference,
or to fail.
-/
inductive Step where
  | follow (reference : Reference) (place : Path → Path)
  | fail (violation : Violation) (place : Path → Path)

/-- The step as one of a node further out. -/
def Step.within (inner : Path → Path) : Step → Step
  | .follow reference place => .follow reference fun path => place (inner path)
  | .fail violation place => .fail violation fun path => place (inner path)

/-- The check that takes the steps in turn for a node at the path. -/
def perform (follow : Reference → Path → Check) (path : Path) : List Step → Check
  | [] => pass
  | .follow reference place :: rest =>
      both (follow reference (place path)) (perform follow path rest)
  | .fail violation place :: _ => breach (place path) violation

-----------------------------------------------------------------------------------------
-- The steps of a node
-----------------------------------------------------------------------------------------

/-- The step that the reference of a node asks for. -/
def referenceSteps (source : Entries Json) : List Step :=
  match source.lookup "$ref" with
  | none => []
  | some (.string text) => [.follow (.ofText text) id]
  | some _ => [.fail .referenceNotString id]

mutual

/-- The steps of a node: those of its reference, its properties, its items and its other values. -/
def nodeSteps (value : Json) : List Step :=
  match value with
  | .object source =>
      let inProperties :=
        match h : source.lookup "properties" with
        | none => []
        | some (.object members) =>
            have := Entries.sizeOf_members_lt h
            propertySteps members
        | some _ => [.fail .propertiesNotObject id]
      let inItems :=
        match h : source.lookup "items" with
        | none => []
        | some (.object items) =>
            have := Entries.sizeOf_members_lt h
            (nodeSteps (.object items)).map (.within .items)
        | some _ => [.fail .itemsNotObject .items]
      let inValues :=
        match h : source.lookup "additionalProperties" with
        | none => []
        | some (.object values) =>
            have := Entries.sizeOf_members_lt h
            (nodeSteps (.object values)).map (.within .values)
        | some _ => [.fail .valuesNotObject .values]
      referenceSteps source ++ (inProperties ++ (inItems ++ inValues))
  | _ => [.fail .notObject id]
termination_by sizeOf value

/-- The steps of the properties of a node, one property after the other. -/
def propertySteps (members : Entries Json) : List Step :=
  match members with
  | [] => []
  | (name, value) :: rest =>
      let first :=
        match value with
        | .object source => nodeSteps (.object source)
        | _ => [.fail .propertyNotObject id]
      first.map (.within (.property · name)) ++ propertySteps rest
termination_by sizeOf members

end

/-- The steps of the input properties of a resource. -/
def inputSteps : Entries Json → List Step
  | [] => []
  | (name, value) :: rest => (nodeSteps value).map (.within (.property · name)) ++ inputSteps rest

/-- The steps of the properties of a node, if it has any. -/
def propertiesSteps (source : Entries Json) : List Step :=
  match source.lookup "properties" with
  | none => []
  | some (.object members) => propertySteps members
  | some _ => [.fail .propertiesNotObject id]

/-- The steps of a single node below a member of the given name. -/
def childSteps (source : Entries Json) (name : String) (inner : Path → Path)
    (violation : Violation)
    : List Step :=
  match source.lookup name with
  | none => []
  | some (.object child) => (nodeSteps (.object child)).map (.within inner)
  | some _ => [.fail violation inner]

/-- The steps of an object are those of its four parts in order. -/
theorem nodeSteps_object (source : Entries Json)
    : nodeSteps (.object source)
      = referenceSteps source
        ++ (propertiesSteps source
          ++ (childSteps source "items" .items .itemsNotObject
            ++ childSteps source "additionalProperties" .values .valuesNotObject)) := by
  rw [nodeSteps]
  congr 1
  congr 1
  · unfold propertiesSteps
    split <;> simp only [*]
  · congr 1
    · unfold childSteps
      split <;> simp only [*]
    · unfold childSteps
      split <;> simp only [*]

/-- A value that is no object has the one step to fail. -/
theorem nodeSteps_of_not_object {value : Json} (scalar : value.isObject = false)
    : nodeSteps value = [.fail .notObject id] := by
  rw [nodeSteps]
  rintro source rfl
  cases scalar

theorem propertySteps_cons (name : String) (value : Json) (rest : Entries Json)
    : propertySteps ((name, value) :: rest)
      = (if value.isObject then nodeSteps value else [.fail .propertyNotObject id]).map
            (.within (.property · name))
          ++ propertySteps rest := by
  cases value with
  | object source => rw [propertySteps]; rfl
  | null | bool _ | number _ | string _ | array _ =>
      rw [propertySteps]
      · rfl
      · rintro source ⟨⟩

-----------------------------------------------------------------------------------------
-- Checks take the steps
-----------------------------------------------------------------------------------------

variable (follow : Reference → Path → Check)

theorem both_pass (check : Check) : both pass check = check := rfl

theorem both_pass_right (check : Check) : both check pass = check := by
  funext passed
  simp only [both]
  cases check passed <;> rfl

theorem both_breach (path : Path) (violation : Violation) (check : Check)
    : both (breach path violation) check = breach path violation :=
  rfl

theorem both_assoc (first second third : Check)
    : both (both first second) third = both first (both second third) := by
  funext passed
  simp only [both]
  cases first passed <;> rfl

/-- Steps of two lists are taken one list after the other. -/
theorem perform_append (path : Path) (first second : List Step)
    : perform follow path (first ++ second)
      = both (perform follow path first) (perform follow path second) := by
  induction first with
  | nil => rfl
  | cons step rest ih =>
      cases step with
      | follow reference place => simp only [List.cons_append, perform, ih, both_assoc]
      | fail violation place => simp only [List.cons_append, perform, both_breach]

/-- Steps within a node are taken at the path of the inner node. -/
theorem perform_within (path : Path) (inner : Path → Path) (steps : List Step)
    : perform follow path (steps.map (.within inner)) = perform follow (inner path) steps := by
  induction steps with
  | nil => rfl
  | cons step rest ih =>
      cases step with
      | follow reference place => simp only [List.map_cons, Step.within, perform, ih]
      | fail violation place => simp only [List.map_cons, Step.within, perform]

theorem perform_fail (path : Path) (violation : Violation) (place : Path → Path)
    : perform follow path [.fail violation place] = breach (place path) violation :=
  rfl

theorem perform_referenceSteps (source : Entries Json) (path : Path)
    : perform follow path (referenceSteps source) = referencePart follow source path := by
  unfold referenceSteps referencePart
  cases source.lookup "$ref" with
  | none => rfl
  | some value =>
      cases value with
      | string text => exact both_pass_right (follow (.ofText text) path)
      | null | bool _ | number _ | array _ | object _ => rfl

mutual

/-- The check of a node takes the steps of the node, by recursion over the nodes below it. -/
theorem node_eq_perform (value : Json) (path : Path)
    : node follow value path = perform follow path (nodeSteps value) := by
  cases value with
  | object source =>
      have properties
          : propertiesPart follow source path = perform follow path (propertiesSteps source) := by
        unfold propertiesPart propertiesSteps
        cases found : source.lookup "properties" with
        | none => rfl
        | some value =>
            cases value with
            | object members =>
                have := Entries.sizeOf_members_lt found
                exact properties_eq_perform members path
            | null | bool _ | number _ | string _ | array _ => rfl
      have child (name : String) (inner : Path → Path) (violation : Violation)
          : childPart follow source name (inner path) violation
            = perform follow path (childSteps source name inner violation) := by
        unfold childPart childSteps
        cases found : source.lookup name with
        | none => rfl
        | some value =>
            cases value with
            | object child =>
                have := Entries.sizeOf_members_lt found
                dsimp only
                rw [perform_within]
                exact node_eq_perform (.object child) (inner path)
            | null | bool _ | number _ | string _ | array _ => rfl
      rw [node_object, nodeSteps_object, perform_append, perform_append, perform_append,
        perform_referenceSteps, properties, child "items", child "additionalProperties"]
  | null | bool _ | number _ | string _ | array _ =>
      rw [node_of_not_object follow path rfl, nodeSteps_of_not_object rfl, perform_fail]
      rfl
termination_by sizeOf value

/-- The check of properties takes their steps, by recursion over their list. -/
theorem properties_eq_perform (members : Entries Json) (path : Path)
    : properties follow members path = perform follow path (propertySteps members) := by
  cases members with
  | nil => rw [properties, propertySteps]; rfl
  | cons entry rest =>
      obtain ⟨name, value⟩ := entry
      rw [properties_cons, propertySteps_cons, perform_append, perform_within,
        properties_eq_perform rest path]
      congr 1
      split
      · exact node_eq_perform value (.property path name)
      · rfl
termination_by sizeOf members

end

/-- The check of input properties takes their steps, by induction over their list. -/
theorem inputs_eq_perform (entries : Entries Json) (path : Path)
    : inputs follow entries path = perform follow path (inputSteps entries) := by
  induction entries with
  | nil => rfl
  | cons entry rest ih =>
      rw [inputs, inputSteps, perform_append, perform_within, ih, node_eq_perform]

end ComponentCrd.Preflight

namespace ComponentCrd.Document

open Preflight

/-- The steps of what a reference leads to. -/
def targetSteps (doc : Document) (reference : Reference) : List Step :=
  match doc.target? reference with
  | some (.type value) =>
      if value.isObject then nodeSteps value else [.fail (.typeNotObject reference) id]
  | some (.resource resource) => inputSteps resource.inputProperties
  | none => [.fail (dangling reference) id]

/-- The check of a target takes its steps. -/
theorem targetPart_eq_perform (doc : Document) (follow : Reference → Path → Check)
    (reference : Reference) (path : Path)
    : doc.targetPart follow reference path = perform follow path (doc.targetSteps reference) := by
  unfold targetPart targetSteps
  cases doc.target? reference with
  | none => rfl
  | some target =>
      cases target with
      | type value =>
          cases object : value.isObject with
          | true => simpa only [object, if_true] using node_eq_perform follow value path
          | false => simp only [object]; rfl
      | resource resource => exact inputs_eq_perform follow resource.inputProperties path

end ComponentCrd.Document
