import ComponentCrd.Proofs.Schema.TargetGrammar

/-! Schemas without the marks of their freeform nodes. A node that loses its mark is an object that
says nothing about its members, and the JSON form loses the member with the mark, at the nodes of
the schema only: what a default or an enumeration holds is no node.
-/

namespace ComponentCrd

namespace Grammar

mutual

/-- The node without the mark, and so with every node below it. -/
def unmarked : Json → Json
  | .object members => .object (unmarkedMembers members)
  | value => value

/-- The members of a node without the mark, and with the nodes in them unmarked. -/
def unmarkedMembers : List (String × Json) → List (String × Json)
  | [] => []
  | (name, value) :: rest =>
      if name = freeformMark then
        unmarkedMembers rest
      else if name = "items" ∨ name = "additionalProperties" then
        (name, unmarked value) :: unmarkedMembers rest
      else if name = "properties" then
        (name, unmarkedProperties value) :: unmarkedMembers rest
      else
        (name, value) :: unmarkedMembers rest

/-- The properties of a node, each unmarked. -/
def unmarkedProperties : Json → Json
  | .object properties => .object (unmarkedEntries properties)
  | value => value

/-- Named nodes, each unmarked. -/
def unmarkedEntries : List (String × Json) → List (String × Json)
  | [] => []
  | (name, node) :: rest => (name, unmarked node) :: unmarkedEntries rest

end

end Grammar

namespace Schema

mutual

/-- The schema with its freeform nodes turned into objects that say nothing about their members. -/
def unmarked : Schema → Schema
  | .scalar type notes => .scalar type notes
  | .array items notes => .array items.unmarked notes
  | .object properties? values? required notes =>
      .object (unmarkedProperties properties?) (unmarkedOption values?) required notes
  | .freeform notes => .object none none [] notes

/-- A schema that may be missing, unmarked. -/
def unmarkedOption : Option Schema → Option Schema
  | none => none
  | some schema => some schema.unmarked

/-- Properties that may be missing, each unmarked. -/
def unmarkedProperties : Option (List (String × Schema)) → Option (List (String × Schema))
  | none => none
  | some properties => some (unmarkedEntries properties)

/-- Named schemas, each unmarked. -/
def unmarkedEntries : List (String × Schema) → List (String × Schema)
  | [] => []
  | (name, schema) :: rest => (name, schema.unmarked) :: unmarkedEntries rest

end

/-- Unmarking keeps the names. -/
theorem names_unmarkedEntries (properties : Entries Schema)
    : Entries.names (unmarkedEntries properties) = Entries.names properties := by
  induction properties with
  | nil => rfl
  | cons entry rest ih => exact congrArg (entry.1 :: ·) ih

-----------------------------------------------------------------------------------------
-- The JSON form of an unmarked schema
-----------------------------------------------------------------------------------------

open Grammar in
theorem unmarkedMembers_append (first second : Entries Json)
    : unmarkedMembers (first ++ second) = unmarkedMembers first ++ unmarkedMembers second := by
  induction first with
  | nil => rfl
  | cons entry rest ih =>
      obtain ⟨name, value⟩ := entry
      simp only [List.cons_append, unmarkedMembers, ih]
      split
      · rfl
      · split
        · rfl
        · split <;> rfl

/-- A member changes as its value does, if there is one. -/
theorem unmarkedMembers_member {name : String} {change : Json → Json}
    (changes : ∀ value, Grammar.unmarkedMembers [(name, value)] = [(name, change value)])
    (value? : Option Json)
    : Grammar.unmarkedMembers (member name value?) = member name (value?.map change) := by
  cases value? with
  | none => rfl
  | some value => exact changes value

/-- A member that is neither the mark nor holds nodes stays as it is. -/
theorem unmarkedMembers_plain {name : String}
    (other : name ∉ [Grammar.freeformMark, "items", "additionalProperties", "properties"])
    (value? : Option Json)
    : Grammar.unmarkedMembers (member name value?) = member name value? := by
  simp only [List.mem_cons, List.not_mem_nil, or_false, not_or] at other
  have stays (value : Json) : Grammar.unmarkedMembers [(name, value)] = [(name, id value)] := by
    simp [Grammar.unmarkedMembers, other]
  rw [unmarkedMembers_member stays, Option.map_id, id]

variable {type : SchemaType} {notes : Annotations} {values? items? properties? : Option Json}
  {required : List String} {freeform : Bool}

/-- The members of a node lose the mark, and the nodes in them are unmarked. -/
theorem unmarkedMembers_membersOf
    : Grammar.unmarkedMembers (membersOf type notes values? items? properties? required freeform)
      = membersOf type notes (values?.map Grammar.unmarked) (items?.map Grammar.unmarked)
          (properties?.map Grammar.unmarkedProperties) required false := by
  have items (value : Json)
      : Grammar.unmarkedMembers [("items", value)] = [("items", Grammar.unmarked value)] := by
    simp [Grammar.unmarkedMembers, Grammar.freeformMark]
  have values (value : Json)
      : Grammar.unmarkedMembers [("additionalProperties", value)]
        = [("additionalProperties", Grammar.unmarked value)] := by
    simp [Grammar.unmarkedMembers, Grammar.freeformMark]
  have properties (value : Json)
      : Grammar.unmarkedMembers [("properties", value)]
        = [("properties", Grammar.unmarkedProperties value)] := by
    simp [Grammar.unmarkedMembers, Grammar.freeformMark]
  have typed
      : Grammar.unmarkedMembers [("type", .string type.name)] = [("type", .string type.name)] :=
    unmarkedMembers_plain (by decide) (some (.string type.name))
  have mark (value? : Option Json)
      : Grammar.unmarkedMembers (member "x-kubernetes-preserve-unknown-fields" value?) = [] := by
    cases value? <;> simp [member, Grammar.unmarkedMembers, Grammar.freeformMark]
  simp only [membersOf, unmarkedMembers_append, typed, mark, unmarkedMembers_member items,
    unmarkedMembers_member values, unmarkedMembers_member properties]
  rw [unmarkedMembers_plain (by decide), unmarkedMembers_plain (by decide),
    unmarkedMembers_plain (by decide), unmarkedMembers_plain (by decide)]
  rfl

mutual

/-- The JSON form of the unmarked schema is the unmarked JSON form, by recursion on the schema. -/
theorem toJson_unmarked (schema : Schema)
    : schema.unmarked.toJson = Grammar.unmarked schema.toJson := by
  cases schema with
  | scalar type notes =>
      simp only [unmarked, toJson, Grammar.unmarked, unmarkedMembers_membersOf]
      rfl
  | array items notes =>
      simp only [unmarked, toJson, Grammar.unmarked, unmarkedMembers_membersOf,
        toJson_unmarked items]
      rfl
  | object properties? values? required notes =>
      simp only [unmarked, toJson, Grammar.unmarked, unmarkedMembers_membersOf,
        optionToJson_unmarked values?, propertiesToJson_unmarked properties?]
      rfl
  | freeform notes =>
      simp only [unmarked, toJson, Grammar.unmarked, unmarkedMembers_membersOf]
      rfl

theorem optionToJson_unmarked (values? : Option Schema)
    : optionToJson (unmarkedOption values?) = (optionToJson values?).map Grammar.unmarked := by
  cases values? with
  | none => rfl
  | some schema =>
      simp only [unmarkedOption, optionToJson, Option.map_some, toJson_unmarked schema]

theorem propertiesToJson_unmarked (properties? : Option (List (String × Schema)))
    : propertiesToJson (unmarkedProperties properties?)
      = (propertiesToJson properties?).map Grammar.unmarkedProperties := by
  cases properties? with
  | none => rfl
  | some properties =>
      simp only [unmarkedProperties, propertiesToJson, Option.map_some, Grammar.unmarkedProperties,
        entriesToJson_unmarked properties]

theorem entriesToJson_unmarked (properties : List (String × Schema))
    : entriesToJson (unmarkedEntries properties)
      = Grammar.unmarkedEntries (entriesToJson properties) := by
  cases properties with
  | nil => rfl
  | cons entry rest =>
      obtain ⟨name, schema⟩ := entry
      simp only [unmarkedEntries, entriesToJson, Grammar.unmarkedEntries, toJson_unmarked schema,
        entriesToJson_unmarked rest]

end

end Schema

end ComponentCrd
