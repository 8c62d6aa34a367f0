import ComponentCrd.Proofs.Json.EntryUnion
import ComponentCrd.Proofs.Json.TreeReading
import ComponentCrd.Proofs.Json.WrittenNumbers
import ComponentCrd.Proofs.Json.WrittenTrees

/-! Values read back from their compact texts. A regular value, whose objects have their members in
order and whose whole numbers fit into 64 bits, is read back as itself if its doubles are and there
is room for its brackets, and otherwise not at all.
-/

namespace ComponentCrd

/-- Entries in increasing order are in order. -/
theorem Entries.ofList_of_increasing {α : Type} {entries : Entries α}
    (increasing : entries.Increasing)
    : ofList entries = entries :=
  (increasing_ofList entries).eq_of_perm increasing (perm_ofList increasing.nodup)

theorem utf8_append (first second : List Char)
    : utf8 (first ++ second) = utf8 first ++ utf8 second :=
  List.flatMap_append

namespace Json

-----------------------------------------------------------------------------------------
-- Regular values, their doubles, and their brackets
-----------------------------------------------------------------------------------------

/-- At any depth, the members of objects increase and whole numbers fit into 64 bits. -/
inductive Regular : Json → Prop
  | null : Regular .null
  | bool (value : Bool) : Regular (.bool value)
  | number {value : Number} (fits : value.Fits) : Regular (.number value)
  | string (text : String) : Regular (.string text)
  | array {items : List Json} (each : ∀ item ∈ items, Regular item) : Regular (.array items)
  | object {members : Entries Json} (increasing : members.Increasing)
    (each : ∀ member ∈ members, Regular member.2)
    : Regular (.object members)

mutual

/-- The doubles in a value. -/
def doubles : Json → List Binary64
  | .number (.float value) => [value]
  | .array items => doublesOfItems items
  | .object members => doublesOfMembers members
  | _ => []

/-- The doubles in items. -/
def doublesOfItems : List Json → List Binary64
  | [] => []
  | item :: rest => item.doubles ++ doublesOfItems rest

/-- The doubles in members. -/
def doublesOfMembers : List (String × Json) → List Binary64
  | [] => []
  | (_, value) :: rest => value.doubles ++ doublesOfMembers rest

end

mutual

/-- How many brackets are open at the same time in the text of a value. -/
def depth : Json → Nat
  | .array items => depthOfItems items + 1
  | .object members => depthOfMembers members + 1
  | _ => 0

/-- How many brackets are open at the same time in the text of items. -/
def depthOfItems : List Json → Nat
  | [] => 0
  | item :: rest => max item.depth (depthOfItems rest)

/-- How many brackets are open at the same time in the text of members. -/
def depthOfMembers : List (String × Json) → Nat
  | [] => 0
  | (_, value) :: rest => max value.depth (depthOfMembers rest)

end

theorem mem_doublesOfItems {items : List Json} {item : Json} {x : Binary64} (member : item ∈ items)
    (double : x ∈ item.doubles)
    : x ∈ doublesOfItems items := by
  induction items with
  | nil => cases member
  | cons head rest ih =>
      rw [doublesOfItems, List.mem_append]
      rcases List.mem_cons.mp member with rfl | later
      · exact .inl double
      · exact .inr (ih later)

theorem mem_doublesOfMembers {members : Entries Json} {member : String × Json} {x : Binary64}
    (inside : member ∈ members) (double : x ∈ member.2.doubles)
    : x ∈ doublesOfMembers members := by
  induction members with
  | nil => cases inside
  | cons head rest ih =>
      rw [doublesOfMembers, List.mem_append]
      rcases List.mem_cons.mp inside with rfl | later
      · exact .inl double
      · exact .inr (ih later)

/-- The value, if there is room for its brackets. -/
def within? (room : Nat) (value : Json) : Option Json :=
  if value.depth ≤ room then some value else none

theorem mapM_within? (room : Nat) (items : List Json)
    : items.mapM (within? room) = if depthOfItems items ≤ room then some items else none := by
  induction items with
  | nil => rfl
  | cons item rest ih =>
      rw [List.mapM_cons, ih, within?, depthOfItems]
      simp only [Nat.max_le]
      by_cases first : item.depth ≤ room <;> by_cases others : depthOfItems rest ≤ room
        <;> simp [first, others]

theorem mapM_members_within? (room : Nat) (members : Entries Json)
    : (members.mapM fun member => (member.2.within? room).map (member.1, ·))
      = if depthOfMembers members ≤ room then some members else none := by
  induction members with
  | nil => rfl
  | cons member rest ih =>
      rw [List.mapM_cons, ih, within?, depthOfMembers]
      simp only [Nat.max_le]
      by_cases first : member.2.depth ≤ room <;> by_cases others : depthOfMembers rest ≤ room
        <;> simp [first, others]

-----------------------------------------------------------------------------------------
-- What is made of the text of a value
-----------------------------------------------------------------------------------------

/-- The text of the value is the text of a tree that means the result. -/
def Written {α : Type} (meaning : Tree → Option α) (value : Json) (result? : Option α) : Prop :=
  ∃ tree : Tree, tree.text = utf8 value.chars ∧ meaning tree = result?

section

variable {α : Type} {meaning : Tree → Option α}

theorem written_string (text : String) : Written Tree.string? (.string text) (some text) := by
  obtain ⟨parts, spelled, meant⟩ := exists_parts text
  refine ⟨.string parts, ?_, meant⟩
  rw [Tree.text, spelled, Json.chars, utf8]

theorem written_bool (value : Bool) : Written Tree.bool? (.bool value) (some value) := by
  refine ⟨.bool value, ?_, rfl⟩
  cases value <;> rfl

/-- What is made of the texts of items is made of the text of their list, one after the other. -/
theorem exists_items {items : List Json} {result? : Json → Option α}
    (each : ∀ item ∈ items, Written meaning item (result? item))
    : ∃ trees, (∀ first, Tree.itemsText first trees = utf8 (itemChars first items))
        ∧ trees.mapM meaning = items.mapM result? := by
  induction items with
  | nil => exact ⟨[], fun first => rfl, rfl⟩
  | cons item rest ih =>
      obtain ⟨tree, spelled, meant⟩ := each item (.head _)
      obtain ⟨trees, spelledRest, meantRest⟩ := ih fun item member => each item (.tail _ member)
      refine ⟨tree :: trees, fun first => ?_, ?_⟩
      · rw [Tree.itemsText, itemChars, utf8_append, utf8_append, List.append_assoc, spelled,
          spelledRest]
        cases first <;> rfl
      · rw [List.mapM_cons, List.mapM_cons, meant, meantRest]

/-- One member more, in front of the others. -/
theorem membersText_cons {name : String} {value : Json} {rest : Entries Json}
    {parts : List StringPart} {tree : Tree} {trees : List (List StringPart × Tree)}
    (named : StringPart.quoted parts = utf8 (stringChars name)) (own : tree.text = utf8 value.chars)
    (others : ∀ first, Tree.membersText first trees = utf8 (memberChars first rest)) (first : Bool)
    : Tree.membersText first ((parts, tree) :: trees)
      = utf8 (memberChars first ((name, value) :: rest)) := by
  have colon : utf8 (':' :: value.chars) = [58] ++ utf8 value.chars := rfl
  simp only [Tree.membersText, memberChars, utf8_append, own, others, named, colon,
    List.append_assoc]
  cases first <;> rfl

/-- What is made of the texts of values is made of the text of their object, with their names. -/
theorem exists_members {members : Entries Json} {result? : Json → Option α}
    (each : ∀ member ∈ members, Written meaning member.2 (result? member.2))
    : ∃ trees, (∀ first, Tree.membersText first trees = utf8 (memberChars first members))
        ∧ trees.mapM (Tree.entry meaning)
          = members.mapM fun member => (result? member.2).map (member.1, ·) := by
  induction members with
  | nil => exact ⟨[], fun first => rfl, rfl⟩
  | cons member rest ih =>
      obtain ⟨name, value⟩ := member
      obtain ⟨tree, spelled, meant⟩ := each (name, value) (.head _)
      obtain ⟨trees, spelledRest, meantRest⟩ :=
        ih fun member inside => each member (.tail _ inside)
      obtain ⟨parts, spelledName, meantName⟩ := exists_parts name
      refine ⟨(parts, tree) :: trees, membersText_cons spelledName spelled spelledRest, ?_⟩
      rw [List.mapM_cons, List.mapM_cons, meantRest, Tree.entry, meantName, meant]
      cases result? value <;> rfl

theorem text_array {items : List Json} {trees : List Tree}
    (spelled : ∀ first, Tree.itemsText first trees = utf8 (itemChars first items))
    : (Tree.array trees).text = utf8 (Json.array items).chars := by
  rw [Tree.text, spelled, Json.chars, utf8_append]
  rfl

theorem text_object {members : Entries Json} {trees : List (List StringPart × Tree)}
    (spelled : ∀ first, Tree.membersText first trees = utf8 (memberChars first members))
    : (Tree.object trees).text = utf8 (Json.object members).chars := by
  rw [Tree.text, spelled, Json.chars, utf8_append]
  rfl

theorem written_list {item : Nat → Tree → Option α} {room : Nat} {items : List Json}
    {result? : Json → Option α} (each : ∀ value ∈ items, Written (item room) value (result? value))
    : Written (Tree.list? item (room + 1)) (.array items) (items.mapM result?) := by
  obtain ⟨trees, spelled, meant⟩ := exists_items each
  exact ⟨.array trees, text_array spelled, meant⟩

theorem written_map {value : Nat → Tree → Option α} {room : Nat} {members : Entries Json}
    {result? : Json → Option α}
    (each : ∀ member ∈ members, Written (value room) member.2 (result? member.2))
    : Written (Tree.map? value (room + 1)) (.object members)
        ((members.mapM fun member => (result? member.2).map (member.1, ·)).map Entries.ofList) := by
  obtain ⟨trees, spelled, meant⟩ := exists_members each
  refine ⟨.object trees, text_object spelled, ?_⟩
  rw [Tree.map?, meant]

end

section

variable {σ : Type} {fields : List (Tree.Field σ)} {room : Nat}

/-- A member of a record: its name, its value, and what its text puts into the record. -/
structure RecordMember (σ : Type) where
  name : String
  value : Json
  put? : Option (σ → σ)

/-- The member is one of a known field. -/
def RecordMember.Known (fields : List (Tree.Field σ)) (room : Nat) (member : RecordMember σ)
    : Prop :=
  ∃ field, fields.find? (·.name == member.name) = some field
    ∧ Written (field.put? room) member.value member.put?

theorem known_of_written {α : Type} {value : Nat → Tree → Option α} {name : String}
    {put : α → σ → σ} (found : fields.find? (·.name == name) = some (Tree.field name value put))
    {json : Json} {result? : Option α} (written : Written (value room) json result?)
    : RecordMember.Known fields room ⟨name, json, result?.map put⟩ := by
  obtain ⟨tree, spelled, meant⟩ := written
  exact ⟨_, found, tree, spelled, congrArg (Option.map put) meant⟩

/-- The text of known members of distinct names puts into a record what each of them does, by
induction over the members.
-/
theorem exists_recordMembers {members : List (RecordMember σ)}
    (known : ∀ member ∈ members, member.Known fields room) (distinct : (members.map (·.name)).Nodup)
    : ∃ trees,
        (∀ first, Tree.membersText first trees
          = utf8 (memberChars first (members.map fun member => (member.name, member.value))))
        ∧ ∀ seen result, (∀ member ∈ members, member.name ∉ seen)
            → (trees.foldlM (Tree.memberStep (Tree.recordStep fields room)) (seen, result)).map
                (·.2)
              = members.foldlM (fun result member => member.put?.map (· result)) result := by
  induction members with
  | nil => exact ⟨[], fun first => rfl, fun seen result _ => rfl⟩
  | cons member rest ih =>
      obtain ⟨apart, distinct⟩ := List.nodup_cons.mp distinct
      obtain ⟨field, found, tree, spelled, meant⟩ := known member (.head _)
      obtain ⟨trees, spelledRest, meantRest⟩ :=
        ih (fun other inside => known other (.tail _ inside)) distinct
      obtain ⟨parts, spelledName, meantName⟩ := exists_parts member.name
      refine ⟨(parts, tree) :: trees, membersText_cons spelledName spelled spelledRest, ?_⟩
      intro seen result fresh
      have new : seen.contains member.name = false := by simpa using fresh member (.head _)
      rw [List.foldlM_cons, List.foldlM_cons]
      simp only [Tree.memberStep, meantName, Option.bind_some, Tree.recordStep, found, new, meant]
      cases member.put? with
      | none => rfl
      | some put =>
          refine meantRest (member.name :: seen) (put result) fun other inside => ?_
          simp only [List.mem_cons, not_or]
          refine ⟨?_, fresh other (.tail _ inside)⟩
          intro same
          exact apart (List.mem_map.mpr ⟨other, inside, same⟩)

theorem written_record {members : List (RecordMember σ)}
    (known : ∀ member ∈ members, member.Known fields room) (distinct : (members.map (·.name)).Nodup)
    (initial : σ)
    : Written (Tree.record? fields initial (room + 1))
        (.object (members.map fun member => (member.name, member.value)))
        (members.foldlM (fun result member => member.put?.map (· result)) initial) := by
  obtain ⟨trees, spelled, meant⟩ := exists_recordMembers known distinct
  exact ⟨.object trees, text_object spelled, meant [] initial (by simp)⟩

end

/-- A regular value is read back as itself, if there is room and its doubles are read back. -/
theorem Regular.written {value : Json} (regular : value.Regular)
    (doubles : ∀ x ∈ value.doubles, (Number.float x).ReadsBack) (room : Nat)
    : Written (Tree.value room) value (value.within? room) := by
  induction regular generalizing room with
  | null => exact ⟨.null, rfl, by cases room <;> rfl⟩
  | bool value =>
      refine ⟨.bool value, ?_, by cases room <;> rfl⟩
      cases value <;> rfl
  | @number value fits =>
      have reads : value.ReadsBack := by
        cases value with
        | integer value => exact readsBack_of_fits fits
        | float x => exact doubles x (.head _)
      obtain ⟨text, spelled, meant⟩ := reads
      refine ⟨.number text, spelled, ?_⟩
      have own : Tree.value room (.number text) = text.value?.map .number := by cases room <;> rfl
      rw [own, meant]
      rfl
  | string text =>
      obtain ⟨parts, spelled, meant⟩ := exists_parts text
      refine ⟨.string parts, by rw [Tree.text, spelled, Json.chars, utf8], ?_⟩
      have own : Tree.value room (.string parts) = (StringPart.text? parts).map .string := by
        cases room <;> rfl
      rw [own, meant]
      rfl
  | @array items each ih =>
      obtain ⟨trees, spelled, meant⟩ := exists_items fun item member =>
        ih item member (fun x double => doubles x (mem_doublesOfItems member double)) (room - 1)
      refine ⟨.array trees, text_array spelled, ?_⟩
      cases room with
      | zero => rfl
      | succ room =>
          rw [Nat.add_sub_cancel, mapM_within?] at meant
          simp only [Tree.value, Tree.valueAround, Option.bind_some, meant, within?, depth,
            Nat.add_le_add_iff_right]
          split <;> rfl
  | @object members increasing each ih =>
      obtain ⟨trees, spelled, meant⟩ := exists_members fun member inside =>
        ih member inside (fun x double => doubles x (mem_doublesOfMembers inside double)) (room - 1)
      refine ⟨.object trees, text_object spelled, ?_⟩
      cases room with
      | zero => rfl
      | succ room =>
          rw [Nat.add_sub_cancel, mapM_members_within?] at meant
          simp only [Tree.value, Tree.valueAround, Option.bind_some, meant, within?, depth,
            Nat.add_le_add_iff_right]
          split
          · rw [Option.map_some, Entries.ofList_of_increasing increasing]
          · rfl

theorem toUtf8_compact (value : Json) : Text.toUtf8 value.compact = utf8 value.chars := by
  rw [Text.toUtf8, compact, String.toList_ofList, utf8]

/-- The compact text of a regular value holds the value, if there is room for its brackets. -/
theorem Regular.toOption_ofText_compact {value : Json} (regular : value.Regular)
    (doubles : ∀ x ∈ value.doubles, (Number.float x).ReadsBack)
    : (ofText (Text.toUtf8 value.compact)).toOption = value.within? Decode.deepest := by
  obtain ⟨tree, spelled, meant⟩ := regular.written doubles Decode.deepest
  rw [toUtf8_compact, ← spelled, toOption_ofText tree.spellsWhole_text, meant]

end Json

end ComponentCrd
