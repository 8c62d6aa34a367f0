import ComponentCrd.Proofs.Manifest.NodeTexts
import ComponentCrd.Proofs.Manifest.NumberScalars
import ComponentCrd.Proofs.Manifest.StringScalars

/-! The document of a node is read back from its text: the text falls into the lines that it was
made of, none of which is a marker between documents. The node of a JSON value spells the value.
-/

namespace ComponentCrd.Yaml.Reader

variable {float? : List Char → Option Binary64}

-----------------------------------------------------------------------------------------
-- Texts and lines
-----------------------------------------------------------------------------------------

theorem linesOf_append {line : List Char} (unbroken : '\n' ∉ line) (rest : List Char)
    : linesOf (line ++ '\n' :: rest) = line :: linesOf rest := by
  induction line with
  | nil => rw [List.nil_append, linesOf, if_pos rfl]
  | cons c others ih =>
      simp only [List.mem_cons, not_or] at unbroken
      rw [List.cons_append, linesOf, if_neg (Ne.symm unbroken.1), ih unbroken.2]

/-- A text falls into the lines that it is made of. -/
theorem linesOf_flatMap {lines : List (List Char)} (unbroken : ∀ line ∈ lines, '\n' ∉ line)
    : linesOf (lines.flatMap (· ++ ['\n'])) = lines := by
  induction lines with
  | nil => rfl
  | cons line rest ih =>
      rw [List.flatMap_cons, List.append_assoc, List.singleton_append,
        linesOf_append (unbroken line (.head _)),
        ih fun other member => unbroken other (.tail _ member)]

mutual

/-- No key and no scalar of a node is broken, by mutual recursion on nodes, entries and items. -/
theorem Spells.unbroken {node : Node} {value : Json} (spells : Spells float? node value)
    : ∀ own ∈ node.texts, '\n' ∉ own := by
  cases spells with
  | scalar stands => exact List.forall_mem_singleton.mpr stands.unbroken
  | mapping each => exact each.unbroken
  | sequence each => exact each.unbroken
termination_by sizeOf node

theorem SpellsEntries.unbroken {entries : List (List Char × Node)}
    {members : List (String × Json)} (each : SpellsEntries float? entries members)
    : ∀ own ∈ Node.entryTexts entries, '\n' ∉ own := by
  cases each with
  | nil => simp [Node.entryTexts]
  | cons names spells rest =>
      rw [Node.entryTexts, List.forall_mem_cons, List.forall_mem_append]
      exact ⟨names.unbroken, spells.unbroken, rest.unbroken⟩
termination_by sizeOf entries

theorem SpellsItems.unbroken {items : List Node} {values : List Json}
    (each : SpellsItems float? items values)
    : ∀ own ∈ Node.itemTexts items, '\n' ∉ own := by
  cases each with
  | nil => simp [Node.itemTexts]
  | cons spells rest =>
      rw [Node.itemTexts, List.forall_mem_append]
      exact ⟨spells.unbroken, rest.unbroken⟩
termination_by sizeOf items

end

/-- No line of a node is broken: the marks of the layout do not break it either. -/
theorem unbroken_allLines {node : Node} {value : Json} (spells : Spells float? node value)
    : ∀ line ∈ allLines node, '\n' ∉ line := by
  have stands : ∀ line ∈ allLines node, ∀ c ∈ line, c ≠ '\n' := by
    refine forall_mem_allLines ?_ fun own among c within => ?_
    · rintro mark layout rfl
      exact absurd layout (by decide)
    · rintro rfl
      exact spells.unbroken own among within
  exact fun line member inside => stands line member _ inside rfl

/-- What does not begin like a marker is none. -/
theorem isMarker_of_begins {first : Char} {rest : List Char} (other : first ∉ ['-', '.'])
    : isMarker (first :: rest) = false := by
  simp only [List.mem_cons, List.not_mem_nil, or_false, not_or] at other
  simp [isMarker, other]

/-- No line of a mapping is a marker, by induction over the entries. -/
theorem SpellsEntries.no_marker {entries : List (List Char × Node)}
    {members : List (String × Json)} (each : SpellsEntries float? entries members)
    : ∀ line ∈ Node.entryLines entries, isMarker line = false := by
  induction entries generalizing members with
  | nil => simp [Node.entryLines]
  | cons entry rest ih =>
      cases each with
      | @cons key name node value _ members names spells others =>
          obtain ⟨first, letters, rfl, mark⟩ := names.begins
          simp only [List.mem_cons, List.not_mem_nil, or_false, not_or] at mark
          rw [entryLines_cons]
          simp only [List.forall_mem_cons, List.forall_mem_append, List.forall_mem_map]
          refine ⟨isMarker_of_begins (by simp [mark.2]), fun line _ => ?_, ih others⟩
          exact isMarker_of_begins (by decide)

/-- The document of a mapping is read as the object that it spells. -/
theorem document?_document {entries : List (List Char × Node)} {members : List (String × Json)}
    (nonempty : entries ≠ []) (each : SpellsEntries float? entries members)
    (distinct : (members.map Prod.fst).Nodup)
    : document? float? (Node.mapping entries).document = some (.object members) := by
  have spells : Spells float? (.mapping entries) (.object members) := .mapping each distinct
  have block : (Node.mapping entries).inline? = none := by
    cases entries with
    | nil => exact (nonempty rfl).elim
    | cons => rfl
  have lines : linesOf (Node.mapping entries).document.toList = Node.entryLines entries := by
    rw [toList_document, linesOf_flatMap (unbroken_allLines spells), allLines_block block,
      Node.lines]
  have noMarker : (Node.entryLines entries).any isMarker = false := by
    simpa using each.no_marker
  have inPlace : placed 0 (Node.entryLines entries) = (Node.entryLines entries).map Line.of := by
    simp [placed, Line.shift]
  have read := node?_lines spells 0
  rw [allLines_block block, Node.lines, inPlace] at read
  simp only [document?, lines, noMarker, Bool.false_eq_true, if_false, read]

-----------------------------------------------------------------------------------------
-- JSON values
-----------------------------------------------------------------------------------------

/-- The second value is the first or stands inside it. -/
inductive Contains : Json → Json → Prop
  | self {value : Json} : Contains value value
  | item {items : List Json} {item inner : Json} (member : item ∈ items)
    (inside : Contains item inner)
    : Contains (.array items) inner
  | member {members : List (String × Json)} {entry : String × Json} {inner : Json}
    (member : entry ∈ members) (inside : Contains entry.2 inner)
    : Contains (.object members) inner

/-- Nothing stands inside a value without items and members. -/
theorem contains_scalar_iff {value inner : Json} (noArray : ∀ items, value ≠ .array items)
    (noObject : ∀ members, value ≠ .object members)
    : Contains value inner ↔ inner = value := by
  constructor
  · intro inside
    cases inside with
    | self => rfl
    | item => exact (noArray _ rfl).elim
    | member => exact (noObject _ rfl).elim
  · rintro rfl
    exact .self

theorem contains_array_iff {items : List Json} {inner : Json}
    : Contains (.array items) inner
      ↔ inner = .array items ∨ ∃ item ∈ items, Contains item inner := by
  constructor
  · rintro (_ | ⟨member, inside⟩)
    · exact .inl rfl
    · exact .inr ⟨_, member, inside⟩
  · rintro (rfl | ⟨item, member, inside⟩)
    · exact .self
    · exact .item member inside

theorem contains_object_iff {members : List (String × Json)} {inner : Json}
    : Contains (.object members) inner
      ↔ inner = .object members ∨ ∃ entry ∈ members, Contains entry.2 inner := by
  constructor
  · rintro (_ | _ | ⟨member, inside⟩)
    · exact .inl rfl
    · exact .inr ⟨_, member, inside⟩
  · rintro (rfl | ⟨entry, member, inside⟩)
    · exact .self
    · exact .member member inside

/-- No object in the value repeats a name, and the texts of the doubles in it read back. -/
structure Readable (float? : List Char → Option Binary64) (value : Json) : Prop where
  distinct : ∀ members, Contains value (.object members) → (members.map Prod.fst).Nodup
  floats : ∀ x : Binary64, Contains value (.number (.float x)) → float? x.chars = some x

theorem Readable.item {items : List Json} {item : Json} (readable : Readable float? (.array items))
    (member : item ∈ items)
    : Readable float? item :=
  ⟨fun members inside => readable.distinct members (.item member inside),
    fun x inside => readable.floats x (.item member inside)⟩

theorem Readable.member {members : List (String × Json)} {entry : String × Json}
    (readable : Readable float? (.object members)) (member : entry ∈ members)
    : Readable float? entry.2 :=
  ⟨fun names inside => readable.distinct names (.member member inside),
    fun x inside => readable.floats x (.member member inside)⟩

/-- The words of the schema that JSON has stand for their values. -/
theorem standsFor_word {value : Json} (word : value = .null ∨ ∃ truth, value = .bool truth)
    : StandsFor float? value.chars value := by
  rcases word with rfl | ⟨_ | _, rfl⟩
  · exact ⟨rfl, rfl, rfl, ⟨_, _, rfl, by decide⟩, by decide⟩
  · exact ⟨rfl, rfl, rfl, ⟨_, _, rfl, by decide⟩, by decide⟩
  · exact ⟨rfl, rfl, rfl, ⟨_, _, rfl, by decide⟩, by decide⟩

mutual

/-- The node of a JSON value spells the value, by mutual recursion on values, items and members. -/
theorem spells_ofJson {value : Json} (readable : Readable float? value) (key? : Option String)
    : Spells float? (Node.ofJson key? value) value := by
  cases value with
  | null => exact .scalar (standsFor_word (.inl rfl))
  | bool truth => exact .scalar (standsFor_word (.inr ⟨truth, rfl⟩))
  | number number =>
      cases number with
      | integer value => exact .scalar (standsFor_integer float? value)
      | float value => exact .scalar (standsFor_float (readable.floats value .self))
  | string text =>
      rw [Node.ofJson]
      split
      · exact .scalar (standsFor_doubleQuoted float? text)
      · exact .scalar (standsFor_scalarOf float? text)
  | array items =>
      rw [Node.ofJson]
      exact .sequence (spells_itemsOfJson fun item member => readable.item member)
  | object members =>
      rw [Node.ofJson]
      exact .mapping (spells_entriesOfJson fun entry member => readable.member member)
        (readable.distinct members .self)
termination_by sizeOf value

theorem spells_itemsOfJson {items : List Json} (readable : ∀ item ∈ items, Readable float? item)
    : SpellsItems float? (Node.itemsOfJson items) items := by
  cases items with
  | nil => exact .nil
  | cons item rest =>
      rw [Node.itemsOfJson]
      exact .cons (spells_ofJson (readable item (.head _)) none)
        (spells_itemsOfJson fun other member => readable other (.tail _ member))
termination_by sizeOf items

theorem spells_entriesOfJson {members : List (String × Json)}
    (readable : ∀ entry ∈ members, Readable float? entry.2)
    : SpellsEntries float? (Node.entriesOfJson members) members := by
  match members, readable with
  | [], _ => exact .nil
  | (name, value) :: rest, readable =>
      have first : Readable float? value := readable (name, value) (.head _)
      rw [Node.entriesOfJson]
      exact .cons (names_scalarOf float? name) (spells_ofJson first (some name))
        (spells_entriesOfJson fun other member => readable other (.tail _ member))
termination_by sizeOf members

end

end ComponentCrd.Yaml.Reader
