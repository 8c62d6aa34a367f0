import ComponentCrd.Proofs.Schema.Annotating

/-! The grammar of structural schemas as JSON, and the schemas whose JSON form is in it. The grammar
is stated on JSON values alone, node by node, with no mention of how they come about.
-/

namespace ComponentCrd

namespace Grammar

-----------------------------------------------------------------------------------------
-- The grammar
-----------------------------------------------------------------------------------------

/-- The mark of a node that admits every object. -/
def freeformMark : String := "x-kubernetes-preserve-unknown-fields"

/-- The names of the members that a node may have. -/
def memberNames : List String :=
  ["additionalProperties", "default", "description", "enum", "items", "properties", "required",
    "type", freeformMark]

/-- What the members of a node of a type say, apart from the nodes below it. A list has items, and
nothing else has; only an object has properties, other values, required names, or the mark; and
the mark comes without any of them. Required names are names of properties, in increasing order.
-/
structure Node (type : SchemaType) (members : Entries Json) : Prop where
  typed : members.lookup "type" = some (.string type.name)
  known : ∀ name ∈ members.names, name ∈ memberNames
  increasing : members.Increasing
  items : members.has "items" ↔ type = .array
  objectOnly
    : ∀ name ∈ ["properties", "additionalProperties", "required", freeformMark],
        members.has name → type = .object
  freeform
    : ∀ value, members.lookup freeformMark = some value
        → value = .bool true
          ∧ ∀ name ∈ ["properties", "items", "additionalProperties", "required"],
              members.has name = false
  properties : ∀ value, members.lookup "properties" = some value → value.isObject
  required
    : ∀ value, members.lookup "required" = some value
        → ∃ (names : List String) (properties : Entries Json),
            value = .ofStrings names
            ∧ names ≠ []
            ∧ names.Pairwise (· < ·)
            ∧ members.lookup "properties" = some (.object properties)
            ∧ ∀ name ∈ names, properties.has name
  description : ∀ value, members.lookup "description" = some value → ∃ text, value = .string text
  enum
    : ∀ value, members.lookup "enum" = some value
        → ∃ values, value = .array values ∧ ∀ allowed ∈ values, allowed.Fits type

/-- A structural schema: every node is one of the grammar. -/
inductive Structural : Json → Prop
  | node {type : SchemaType} {members : Entries Json} (node : Node type members)
    (properties
      : ∀ properties, members.lookup "properties" = some (.object properties)
          → ∀ entry ∈ properties, Structural entry.2)
    (items : ∀ items, members.lookup "items" = some items → Structural items)
    (values : ∀ values, members.lookup "additionalProperties" = some values → Structural values)
    : Structural (.object members)

end Grammar

namespace Schema

-----------------------------------------------------------------------------------------
-- The members of a node
-----------------------------------------------------------------------------------------

/-- The members that have a value. -/
def present (slots : Entries (Option Json)) : Entries Json :=
  slots.flatMap fun slot => member slot.1 slot.2

theorem lookup_member (key name : String) (value? : Option Json)
    : (member key value?).lookup name = if name = key then value? else none := by
  cases value? with
  | none => simp [member]
  | some value =>
      by_cases same : name = key
      · simp [member, same]
      · have differs : (name == key) = false := by simp [same]
        simp [member, List.lookup_cons, same, differs]

theorem present_cons (key : String) (value? : Option Json) (rest : Entries (Option Json))
    : present ((key, value?) :: rest) = member key value? ++ present rest := by
  rw [present, List.flatMap_cons]
  rfl

/-- Only slots have members, by induction over the slots. -/
theorem lookup_present_eq_none {slots : Entries (Option Json)} {name : String}
    (absent : name ∉ slots.names)
    : (present slots).lookup name = none := by
  induction slots with
  | nil => rfl
  | cons slot rest ih =>
      simp only [Entries.names, List.map_cons, List.mem_cons, not_or] at absent
      rw [present_cons, List.lookup_append, lookup_member, if_neg absent.1, Option.none_or]
      exact ih absent.2

/-- A member is looked up in its slot, if no two slots share a name. -/
theorem lookup_present {slots : Entries (Option Json)} (distinct : slots.names.Nodup)
    (name : String)
    : (present slots).lookup name = (slots.lookup name).join := by
  induction slots with
  | nil => rfl
  | cons slot rest ih =>
      obtain ⟨key, value?⟩ := slot
      simp only [Entries.names, List.map_cons, List.nodup_cons] at distinct
      rw [present_cons, List.lookup_append, lookup_member, List.lookup_cons]
      by_cases same : name = key
      · subst same
        rw [lookup_present_eq_none distinct.1]
        simp
      · have differs : (name == key) = false := by simp [same]
        rw [if_neg same, Option.none_or, differs]
        exact ih distinct.2

/-- The names of the members are names of slots, in their order. -/
theorem names_present_sublist (slots : Entries (Option Json))
    : (present slots).names.Sublist slots.names := by
  induction slots with
  | nil => exact .slnil
  | cons slot rest ih =>
      obtain ⟨key, value?⟩ := slot
      rw [present_cons, Entries.names, List.map_append]
      cases value? with
      | none => exact ih.cons _
      | some value => exact ih.cons_cons _

/-- The values of the members of a node, those that it may have but has not included. -/
def slots (type : SchemaType) (notes : Annotations) (values? items? properties? : Option Json)
    (required : List String) (freeform : Bool)
    : Entries (Option Json) := [
  ("additionalProperties", values?),
  ("default", notes.default?),
  ("description", notes.description?.map .string),
  ("enum", notes.enum?.map .array),
  ("items", items?),
  ("properties", properties?),
  ("required", if required.isEmpty then none else some (.ofStrings required)),
  ("type", some (.string type.name)),
  (Grammar.freeformMark, if freeform then some (.bool true) else none)]

variable {type : SchemaType} {notes : Annotations} {values? items? properties? : Option Json}
  {required : List String} {freeform : Bool}

theorem membersOf_eq_present
    : membersOf type notes values? items? properties? required freeform
      = present (slots type notes values? items? properties? required freeform) := by
  simp only [membersOf, present, slots, List.flatMap_cons, List.flatMap_nil, List.append_nil,
    List.append_assoc]
  rfl

theorem names_slots
    : (slots type notes values? items? properties? required freeform).names
      = Grammar.memberNames :=
  rfl

/-- A member of a node is looked up in its slot. -/
theorem lookup_membersOf (name : String)
    : (membersOf type notes values? items? properties? required freeform).lookup name
      = ((slots type notes values? items? properties? required freeform).lookup name).join := by
  rw [membersOf_eq_present, lookup_present]
  rw [names_slots]
  decide

/-- The members of a node are known and in increasing order of their names. -/
theorem names_membersOf
    : (Entries.names (membersOf type notes values? items? properties? required freeform)).Sublist
        Grammar.memberNames := by
  rw [membersOf_eq_present]
  exact names_present_sublist _

/-- The names of the grammar are in increasing order. -/
theorem memberNames_increasing : Grammar.memberNames.Pairwise (· < ·) := by decide

/-- The members of a node are those of the grammar, if they are the ones of its type. -/
theorem node_membersOf (items : items?.isSome ↔ type = .array)
    (object : properties?.isSome ∨ values?.isSome ∨ required ≠ [] ∨ freeform → type = .object)
    (bare : freeform → properties? = none ∧ items? = none ∧ values? = none ∧ required = [])
    (members : ∀ value, properties? = some value → value.isObject)
    (increasing : required.Pairwise (· < ·))
    (kept
      : required ≠ []
        → ∃ properties : Entries Json,
            properties? = some (.object properties) ∧ ∀ name ∈ required, properties.has name)
    (admitted : notes.AdmittedBy type)
    : Grammar.Node type
        (membersOf type notes values? items? properties? required freeform) := by
  have known
      : (Entries.names (membersOf type notes values? items? properties? required freeform)).Sublist
          Grammar.memberNames :=
    names_membersOf
  have lookup := @lookup_membersOf type notes values? items? properties? required freeform
  generalize membersOf type notes values? items? properties? required freeform = found at *
  simp only [slots, List.lookup_cons] at lookup
  constructor
  case typed => simp [lookup]
  case known => exact fun name member => known.subset member
  case increasing => exact List.pairwise_map.mp (memberNames_increasing.sublist known)
  case items => simpa [Entries.has, lookup] using items
  case objectOnly =>
      suffices (properties?.isSome → type = .object) ∧ (values?.isSome → type = .object)
          ∧ (required ≠ [] → type = .object) ∧ (freeform → type = .object) by
        simpa [Entries.has, lookup, Grammar.freeformMark] using this
      simpa only [or_imp] using object
  case freeform =>
      intro value marked
      have marked : freeform = true ∧ Json.bool true = value := by
        simpa [lookup, Grammar.freeformMark] using marked
      obtain ⟨rfl, rfl, rfl, rfl⟩ := bare marked.1
      simp [Entries.has, lookup, marked.2]
  case properties => simpa [lookup] using members
  case required =>
      intro value requires
      have requires : required ≠ [] ∧ Json.ofStrings required = value := by
        simpa [lookup] using requires
      obtain ⟨properties, has, all⟩ := kept requires.1
      exact ⟨required, properties, requires.2.symm, requires.1, increasing, by simpa [lookup], all⟩
  case description =>
      intro value describes
      obtain ⟨text, _, same⟩
          : ∃ text, notes.description? = some text ∧ Json.string text = value := by
        simpa [lookup] using describes
      exact ⟨text, same.symm⟩
  case enum =>
      intro value enumerates
      obtain ⟨values, allows, same⟩
          : ∃ values, notes.enum? = some values ∧ Json.array values = value := by
        simpa [lookup] using enumerates
      exact ⟨values, same.symm, admitted values allows⟩

-----------------------------------------------------------------------------------------
-- Schemas in the grammar
-----------------------------------------------------------------------------------------

/-- The required names of every object are names of its properties in increasing order, and the
type of every node admits the values that its annotations allow.
-/
inductive Sound : Schema → Prop
  | scalar {type : ScalarType} {notes : Annotations} (admitted : notes.AdmittedBy type.type)
    : Sound (.scalar type notes)
  | array {items : Schema} {notes : Annotations} (each : Sound items)
    (admitted : notes.AdmittedBy .array)
    : Sound (.array items notes)
  | object {properties? : Option (Entries Schema)} {values? : Option Schema}
    {required : List String} {notes : Annotations}
    (properties : ∀ entry ∈ properties?.getD [], Sound entry.2)
    (values : ∀ values, values? = some values → Sound values)
    (increasing : required.Pairwise (· < ·))
    (kept : ∀ name ∈ required, Entries.has (properties?.getD []) name)
    (admitted : notes.AdmittedBy .object)
    : Sound (.object properties? values? required notes)
  | freeform {notes : Annotations} (admitted : notes.AdmittedBy .object) : Sound (.freeform notes)

theorem mem_entriesToJson {properties : Entries Schema} {entry : String × Json}
    (member : entry ∈ entriesToJson properties)
    : ∃ named ∈ properties, named.2.toJson = entry.2 := by
  induction properties with
  | nil => cases member
  | cons head rest ih =>
      rw [entriesToJson] at member
      rcases List.mem_cons.mp member with rfl | later
      · exact ⟨head, .head _, rfl⟩
      · obtain ⟨named, member, same⟩ := ih later
        exact ⟨named, .tail _ member, same⟩

theorem has_entriesToJson (properties : Entries Schema) (name : String)
    : Entries.has (entriesToJson properties) name = Entries.has properties name := by
  unfold Entries.has
  induction properties with
  | nil => rfl
  | cons head rest ih =>
      rw [entriesToJson, List.lookup_cons, List.lookup_cons]
      cases name == head.1
      · exact ih
      · rfl

/-- A node of the grammar is structural where the nodes below it are. -/
theorem structural_membersOf
    (node
      : Grammar.Node type (membersOf type notes values? items? properties? required freeform))
    (properties
      : ∀ properties, properties? = some (.object properties)
          → ∀ entry ∈ properties, Grammar.Structural entry.2)
    (items : ∀ items, items? = some items → Grammar.Structural items)
    (values : ∀ values, values? = some values → Grammar.Structural values)
    : Grammar.Structural
        (.object (membersOf type notes values? items? properties? required freeform)) := by
  refine .node node ?_ ?_ ?_
  · simpa [lookup_membersOf, slots, List.lookup_cons] using properties
  · simpa [lookup_membersOf, slots, List.lookup_cons] using items
  · simpa [lookup_membersOf, slots, List.lookup_cons] using values

/-- The JSON form of a sound schema is structural, by induction on the schema. -/
theorem Sound.structural {schema : Schema} (sound : schema.Sound)
    : Grammar.Structural schema.toJson := by
  induction sound with
  | @scalar type notes admitted =>
      have scalar : type.type ≠ .array := by cases type <;> decide
      rw [toJson]
      refine structural_membersOf (node_membersOf ?_ ?_ ?_ ?_ .nil ?_ admitted) ?_ ?_ ?_
      all_goals simp [scalar]
  | @array items notes _ admitted ih =>
      rw [toJson]
      refine structural_membersOf (node_membersOf ?_ ?_ ?_ ?_ .nil ?_ admitted) ?_ ?_ ?_
      all_goals simp [ih]
  | @object properties? values? required notes _ _ increasing kept admitted below other =>
      have kept (nonempty : required ≠ [])
          : ∃ members : Entries Json,
              propertiesToJson properties? = some (.object members)
              ∧ ∀ name ∈ required, members.has name := by
        cases properties? with
        | none =>
            obtain ⟨name, member⟩ := List.exists_mem_of_ne_nil required nonempty
            exact nomatch kept name member
        | some properties =>
            refine ⟨entriesToJson properties, by rw [propertiesToJson], fun name member => ?_⟩
            rw [has_entriesToJson]
            exact kept name member
      rw [toJson]
      refine structural_membersOf (node_membersOf ?_ ?_ ?_ ?_ increasing kept admitted) ?_ ?_ ?_
      · simp
      · simp
      · simp
      · cases properties? with
        | none => simp [propertiesToJson]
        | some properties => simp [propertiesToJson, Json.isObject, Json.members?]
      · cases properties? with
        | none => simp [propertiesToJson]
        | some named =>
            rintro _ ⟨⟩ entry member
            obtain ⟨source, member, same⟩ := mem_entriesToJson member
            exact same ▸ below source member
      · simp
      · cases values? with
        | none => simp [optionToJson]
        | some schema => simpa [optionToJson] using other schema rfl
  | @freeform notes admitted =>
      rw [toJson]
      refine structural_membersOf (node_membersOf ?_ ?_ ?_ ?_ .nil ?_ admitted) ?_ ?_ ?_
      all_goals simp

end Schema

end ComponentCrd
