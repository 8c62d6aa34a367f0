import ComponentCrd.Manifest.Yaml
import ComponentCrd.Proofs.Manifest.BlockReader
import ComponentCrd.Proofs.Manifest.PlainScalars
import Mathlib.Data.List.TakeWhile

/-! The lines of a node are read as the value that it spells, wherever the lines stand. A block that
belongs to a key or a dash is further to the right, and what follows it is not; so the reader cuts
the lines where the writer has put them together.
-/

namespace ComponentCrd.Yaml.Reader

variable (float? : List Char → Option Binary64)

-----------------------------------------------------------------------------------------
-- Nodes and the values that they spell
-----------------------------------------------------------------------------------------

mutual

/-- The scalars and keys of the node stand for those of the value, and no key is repeated. -/
inductive Spells : Node → Json → Prop
  | scalar {text : List Char} {value : Json} (stands : StandsFor float? text value)
    : Spells (.scalar text) value
  | mapping {entries : List (List Char × Node)} {members : List (String × Json)}
    (each : SpellsEntries entries members) (distinct : (members.map Prod.fst).Nodup)
    : Spells (.mapping entries) (.object members)
  | sequence {items : List Node} {values : List Json} (each : SpellsItems items values)
    : Spells (.sequence items) (.array values)

/-- The entries of a mapping spell the members of an object, one after the other. -/
inductive SpellsEntries : List (List Char × Node) → List (String × Json) → Prop
  | nil : SpellsEntries [] []
  | cons {key : List Char} {name : String} {node : Node} {value : Json}
    {entries : List (List Char × Node)} {members : List (String × Json)}
    (names : Names float? key name) (spells : Spells node value)
    (rest : SpellsEntries entries members)
    : SpellsEntries ((key, node) :: entries) ((name, value) :: members)

/-- The items of a sequence spell the items of a list, one after the other. -/
inductive SpellsItems : List Node → List Json → Prop
  | nil : SpellsItems [] []
  | cons {node : Node} {value : Json} {items : List Node} {values : List Json}
    (spells : Spells node value) (rest : SpellsItems items values)
    : SpellsItems (node :: items) (value :: values)

end

variable {float?}

/-- The empty collections stand for themselves. -/
theorem standsFor_emptyMapping : StandsFor float? ['\x7b', '\x7d'] (.object []) :=
  ⟨rfl, rfl, rfl, ⟨_, _, rfl, by decide⟩, by decide⟩

theorem standsFor_emptySequence : StandsFor float? ['[', ']'] (.array []) :=
  ⟨rfl, rfl, rfl, ⟨_, _, rfl, by decide⟩, by decide⟩

/-- What fits behind a key or a dash stands for the value of the node. -/
theorem Spells.standsFor {node : Node} {value : Json} {text : List Char}
    (spells : Spells float? node value) (inline : node.inline? = some text)
    : StandsFor float? text value := by
  cases spells with
  | scalar stands =>
      obtain rfl := Option.some.inj inline
      exact stands
  | mapping each =>
      cases each with
      | nil =>
          obtain rfl := Option.some.inj inline
          exact standsFor_emptyMapping
      | cons => cases inline
  | sequence each =>
      cases each with
      | nil =>
          obtain rfl := Option.some.inj inline
          exact standsFor_emptySequence
      | cons => cases inline

-----------------------------------------------------------------------------------------
-- Lines in their places
-----------------------------------------------------------------------------------------

/-- Lines that stand at a column, or further to the right. -/
def placed (column : Nat) (lines : List (List Char)) : List Line :=
  lines.map fun line => (Line.of line).shift column

theorem placed_append (column : Nat) (lines others : List (List Char))
    : placed column (lines ++ others) = placed column lines ++ placed column others :=
  List.map_append

theorem placed_cons (column : Nat) (line : List Char) (rest : List (List Char))
    : placed column (line :: rest) = (Line.of line).shift column :: placed column rest :=
  rfl

/-- Lines that are indented stand two columns further to the right. -/
theorem placed_indented (column : Nat) (lines : List (List Char))
    : placed column (lines.map Node.indented) = placed (column + 2) lines := by
  rw [placed, placed, List.map_map]
  refine List.map_congr_left fun line _ => ?_
  simp only [Function.comp_apply, Node.indented, Line.of, Line.shift, List.takeWhile_cons,
    List.dropWhile_cons, beq_self_eq_true, if_true, List.length_cons]
  congr 1
  omega

theorem Line.of_begins {first : Char} {rest : List Char} (noBlank : first ≠ ' ')
    : Line.of (first :: rest) = ⟨0, first :: rest⟩ := by
  simp [Line.of, noBlank]

theorem le_indent_of_mem_placed {column : Nat} {lines : List (List Char)} {line : Line}
    (member : line ∈ placed column lines)
    : column ≤ line.indent := by
  obtain ⟨chars, _, rfl⟩ := List.mem_map.mp member
  exact Nat.le_add_right _ _

-----------------------------------------------------------------------------------------
-- One entry or item after the other
-----------------------------------------------------------------------------------------

/-- A line that stands for a value is read as the value. -/
theorem node?_of_standsFor {text : List Char} {value : Json} {column : Nat}
    (stands : StandsFor float? text value)
    : node? float? [⟨column, text⟩] = some value := by
  rw [node?]
  simp [stands.noItem, stands.noEntry, stands.reads]

/-- An entry is read from its line and the lines that belong to it. -/
theorem entries?_entry {column : Nat} {content after : List Char} {body others : List Line}
    {name : String} {value : Json} {members : List (String × Json)}
    (key : key? float? content = some (name, after))
    (belongs : ∀ line ∈ body, belongsToEntry column line)
    (stops : others.head?.all fun line => !belongsToEntry column line)
    (found
      : (if (after.dropWhile (· == ' ')).isEmpty then
          if body.isEmpty then some .null else node? float? body
        else if body.isEmpty then value? float? (after.dropWhile (· == ' ')) else none)
        = some value)
    (rest : entries? float? column others = some members)
    : entries? float? column (⟨column, content⟩ :: (body ++ others))
      = some ((name, value) :: members) := by
  obtain ⟨take, drop⟩ := cut_append others belongs stops
  rw [entries?]
  simp only [key, if_true, take, drop, found, rest]

/-- An entry whose value stands behind its key. -/
theorem entries?_inline {column : Nat} {content text : List Char} {others : List Line}
    {name : String} {value : Json} {members : List (String × Json)}
    (key : key? float? content = some (name, ' ' :: text)) (stands : StandsFor float? text value)
    (stops : others.head?.all fun line => !belongsToEntry column line)
    (rest : entries? float? column others = some members)
    : entries? float? column (⟨column, content⟩ :: others) = some ((name, value) :: members) := by
  change entries? float? column (⟨column, content⟩ :: ([] ++ others)) = _
  refine entries?_entry key (by simp) stops ?_ rest
  obtain ⟨first, others, rfl, noBlank⟩ := stands.begins
  have behind : (' ' :: first :: others).dropWhile (· == ' ') = first :: others := by
    simp [noBlank]
  rw [behind]
  exact stands.reads

/-- An entry whose value stands below its key. -/
theorem entries?_block {column : Nat} {content : List Char} {body others : List Line}
    {name : String} {value : Json} {members : List (String × Json)}
    (key : key? float? content = some (name, [])) (further : ∀ line ∈ body, column < line.indent)
    (stops : others.head?.all fun line => !belongsToEntry column line)
    (read : node? float? body = some value) (rest : entries? float? column others = some members)
    : entries? float? column (⟨column, content⟩ :: (body ++ others))
      = some ((name, value) :: members) := by
  refine entries?_entry key (fun line member => ?_) stops ?_ rest
  · simp [belongsToEntry, further line member]
  · cases body with
    | nil =>
        rw [node?] at read
        cases read
    | cons => exact read

/-- An item whose value stands behind or below its dash. -/
theorem items?_item {column : Nat} {content after : List Char} {below others : List Line}
    {value : Json} {values : List Json} (dash : dash? content = some after)
    (further : ∀ line ∈ below, column < line.indent)
    (stops : others.head?.all fun line => !decide (column < line.indent))
    (read : node? float? (itemBody column after below) = some value)
    (rest : items? float? column others = some values)
    : items? float? column (⟨column, content⟩ :: (below ++ others)) = some (value :: values) := by
  have belongs : ∀ line ∈ below, decide (column < line.indent) := by simpa using further
  obtain ⟨take, drop⟩ := cut_append others belongs stops
  have all : below.takeWhile (column < ·.indent) = below :=
    List.takeWhile_eq_self_iff.mpr belongs
  have body : itemBody column after (below ++ others) = itemBody column after below := by
    simp only [itemBody, take, all]
  have nonempty : (itemBody column after below).isEmpty = false := by
    cases same : itemBody column after below with
    | nil =>
        rw [same, node?] at read
        cases read
    | cons => rfl
  rw [items?]
  split
  · next none => cases none.symm.trans dash
  · next found dash' =>
      obtain rfl := Option.some.inj (dash'.symm.trans dash)
      simp only [if_true, body, nonempty, drop, read, rest, Bool.false_eq_true, if_false]

-----------------------------------------------------------------------------------------
-- The lines of nodes
-----------------------------------------------------------------------------------------

/-- What stands behind the colon of an entry. -/
def behindColon (node : Node) : List Char := (node.inline?.map (' ' :: ·)).getD []

/-- What stands below the key of an entry. -/
def belowKey (node : Node) : List (List Char) := if node.inline?.isSome then [] else node.lines

theorem entryLines_cons (key : List Char) (node : Node) (rest : List (List Char × Node))
    : Node.entryLines ((key, node) :: rest)
      = (key ++ ':' :: behindColon node)
        :: ((belowKey node).map Node.indented ++ Node.entryLines rest) := by
  rw [Node.entryLines, behindColon, belowKey]
  cases node.inline? <;> rfl

/-- What stands behind a colon is separated from it. -/
theorem isSeparated_behindColon (node : Node) : isSeparated (behindColon node) := by
  unfold behindColon
  cases node.inline? <;> rfl

/-- The lines of a mapping begin with a key at its column. -/
theorem SpellsEntries.begins {entries : List (List Char × Node)} {members : List (String × Json)}
    (each : SpellsEntries float? entries members) (column : Nat) (nonempty : entries ≠ [])
    : ∃ content rest,
        placed column (Node.entryLines entries) = ⟨column, content⟩ :: rest
        ∧ dash? content = none
        ∧ (key? float? content).isSome := by
  cases each with
  | nil => exact (nonempty rfl).elim
  | @cons key name node value entries members names =>
      have read := names.reads (behindColon node) (isSeparated_behindColon node)
      obtain ⟨first, others, rfl, mark⟩ := names.begins
      simp only [List.mem_cons, List.not_mem_nil, or_false, not_or] at mark
      rw [entryLines_cons, placed_cons, List.cons_append, Line.of_begins mark.1]
      refine ⟨first :: (others ++ ':' :: behindColon node), _, rfl, dash?_of_ne mark.2.1, ?_⟩
      rw [List.cons_append] at read
      rw [read]
      rfl

/-- No line of the entries that follow belongs to the one before. -/
theorem SpellsEntries.stops {entries : List (List Char × Node)} {members : List (String × Json)}
    (each : SpellsEntries float? entries members) (column : Nat)
    : (placed column (Node.entryLines entries)).head?.all
        fun line => !belongsToEntry column line := by
  by_cases nonempty : entries = []
  · subst nonempty
    rfl
  · obtain ⟨content, rest, same, noItem, _⟩ := each.begins column nonempty
    rw [same]
    simp [belongsToEntry, noItem]

/-- What stands behind the dash of an item. -/
def behindDash : Node → List Char
  | .scalar text => ' ' :: text
  | .sequence [] => [' ', '[', ']']
  | .sequence (_ :: _) => []
  | .mapping [] => [' ', '\x7b', '\x7d']
  | .mapping (entry :: entries) =>
      ' ' :: (Node.entryLines (entry :: entries)).headD []

/-- What stands below the dash of an item. -/
def belowDash : Node → List (List Char)
  | .scalar _ => []
  | .sequence items => Node.itemLines items
  | .mapping entries => (Node.entryLines entries).tail

theorem itemLines_cons (item : Node) (rest : List Node)
    : Node.itemLines (item :: rest)
      = ('-' :: behindDash item)
        :: ((belowDash item).map Node.indented ++ Node.itemLines rest) := by
  cases item with
  | scalar text => simp [Node.itemLines, Node.inline?, behindDash, belowDash]
  | sequence items =>
      cases items with
      | nil => simp [Node.itemLines, Node.inline?, behindDash, belowDash]
      | cons => simp [Node.itemLines, Node.inline?, behindDash, belowDash]
  | mapping entries =>
      cases entries with
      | nil => simp [Node.itemLines, Node.entryLines, Node.inline?, behindDash, belowDash]
      | cons entry others =>
          cases same : Node.entryLines (entry :: others) with
          | nil =>
              rw [entryLines_cons] at same
              cases same
          | cons first below =>
              simp [Node.itemLines, Node.lines, Node.inline?, Node.behindDash, behindDash,
                belowDash, same]

/-- The lines of a sequence begin with a dash at its column. -/
theorem items_begin (column : Nat) (item : Node) (rest : List Node)
    : ∃ others,
        placed column (Node.itemLines (item :: rest))
        = ⟨column, '-' :: behindDash item⟩ :: others := by
  rw [itemLines_cons, placed_cons, Line.of_begins (by decide)]
  exact ⟨_, rfl⟩

/-- No line of the items that follow belongs to the one before. -/
theorem items_stop (column : Nat) (items : List Node)
    : (placed column (Node.itemLines items)).head?.all
        fun line => !decide (column < line.indent) := by
  cases items with
  | nil => rfl
  | cons item rest =>
      obtain ⟨others, same⟩ := items_begin column item rest
      rw [same]
      simp

/-- Nothing behind a dash: the item stands below. -/
theorem itemBody_below (column : Nat) (lines : List (List Char))
    : itemBody column [] (placed (column + 2) lines) = placed (column + 2) lines := by
  have further : ∀ line ∈ placed (column + 2) lines, decide (column < line.indent) := by
    intro line member
    have := le_indent_of_mem_placed member
    exact decide_eq_true (by omega)
  exact List.takeWhile_eq_self_iff.mpr further

/-- Something behind a dash: the item begins there, as if the dash were a blank. -/
theorem itemBody_behind (column : Nat) {first : Char} (noBlank : first ≠ ' ') (rest : List Char)
    (lines : List (List Char))
    : itemBody column (first :: rest) (placed (column + 2) lines)
      = placed (column + 2) ((first :: rest) :: lines) := by
  have below
      : (placed (column + 2) lines).takeWhile (column < ·.indent) = placed (column + 2) lines :=
    itemBody_below column lines
  rw [placed_cons, Line.of_begins noBlank]
  simp only [itemBody, Line.of_begins noBlank, below]
  rfl

/-- The lines of a node that stands by itself. -/
def allLines (node : Node) : List (List Char) :=
  (node.inline?.map fun text => [text]).getD node.lines

theorem allLines_inline {node : Node} {text : List Char} (inline : node.inline? = some text)
    : allLines node = [text] := by
  simp [allLines, inline]

theorem allLines_block {node : Node} (block : node.inline? = none)
    : allLines node = node.lines := by
  simp [allLines, block]

/-- The document of a mapping has its lines, with an end behind each. -/
theorem toList_document (entries : List (List Char × Node))
    : (Node.mapping entries).document.toList
      = (allLines (.mapping entries)).flatMap (· ++ ['\n']) := by
  cases entries <;> simp [Node.document, allLines, Node.inline?, Node.lines]

theorem dash?_behindDash (item : Node)
    : dash? ('-' :: behindDash item) = some (behindDash item).tail := by
  cases item with
  | scalar text => rfl
  | sequence items => cases items <;> rfl
  | mapping entries => cases entries <;> rfl

/-- Behind and below its dash stand the lines of an item, as if the dash were a blank. -/
theorem itemBody_item {item : Node} {value : Json} (spells : Spells float? item value)
    (column : Nat)
    : itemBody column (behindDash item).tail (placed (column + 2) (belowDash item))
      = placed (column + 2) (allLines item) := by
  cases spells with
  | scalar stands =>
      obtain ⟨first, rest, rfl, noBlank⟩ := stands.begins
      exact itemBody_behind column noBlank rest []
  | @sequence items values each =>
      cases items with
      | nil => exact itemBody_behind column (by decide) _ []
      | cons item rest => exact itemBody_below column (Node.itemLines (item :: rest))
  | @mapping entries members each =>
      cases each with
      | nil => exact itemBody_behind column (by decide) _ []
      | @cons key name node _ entries _ names =>
          obtain ⟨first, others, rfl, mark⟩ := names.begins
          simp only [List.mem_cons, List.not_mem_nil, or_false, not_or] at mark
          simp only [behindDash, belowDash, allLines, Node.inline?, Node.lines, entryLines_cons]
          exact itemBody_behind column mark.1 _ _

-----------------------------------------------------------------------------------------
-- Nodes are read back
-----------------------------------------------------------------------------------------

mutual

/-- The lines of a node are read as the value that it spells, by mutual recursion on nodes, entries
and items.
-/
theorem node?_lines {node : Node} {value : Json} (spells : Spells float? node value)
    (column : Nat)
    : node? float? (placed column (allLines node)) = some value := by
  cases inline : node.inline? with
  | some text =>
      have stands := spells.standsFor inline
      rw [allLines_inline inline]
      obtain ⟨first, rest, rfl, noBlank⟩ := stands.begins
      rw [placed_cons, Line.of_begins noBlank]
      exact node?_of_standsFor stands
  | none =>
      rw [allLines_block inline]
      cases spells with
      | scalar => cases inline
      | @mapping entries members each distinct =>
          have nonempty : entries ≠ [] := by
            rintro rfl
            cases inline
          obtain ⟨content, rest, same, noItem, isEntry⟩ := each.begins column nonempty
          have read := entries?_lines each column
          rw [same] at read
          rw [Node.lines, same, node?]
          simp [noItem, isEntry, read, distinct]
      | @sequence items values each =>
          cases items with
          | nil => cases inline
          | cons item rest =>
              obtain ⟨others, same⟩ := items_begin column item rest
              have read := items?_lines each column
              rw [same] at read
              rw [Node.lines, same, node?]
              simp [dash?_behindDash, read]
termination_by sizeOf node

/-- The lines of entries are read as the members that they spell. -/
theorem entries?_lines {entries : List (List Char × Node)} {members : List (String × Json)}
    (each : SpellsEntries float? entries members) (column : Nat)
    : entries? float? column (placed column (Node.entryLines entries)) = some members := by
  cases each with
  | nil =>
      rw [Node.entryLines, placed, List.map_nil, entries?]
  | @cons key name node value entries members names spells rest =>
      have others := entries?_lines rest column
      have value := node?_lines spells (column + 2)
      have read := names.reads (behindColon node) (isSeparated_behindColon node)
      obtain ⟨first, letters, rfl, mark⟩ := names.begins
      simp only [List.mem_cons, List.not_mem_nil, or_false, not_or] at mark
      rw [entryLines_cons, placed_cons, placed_append, placed_indented, List.cons_append,
        Line.of_begins mark.1]
      rw [List.cons_append] at read
      cases inline : node.inline? with
      | some text =>
          simp only [behindColon, belowKey, inline, Option.map_some, Option.getD_some,
            Option.isSome_some, if_true] at read ⊢
          exact entries?_inline read (spells.standsFor inline) (rest.stops column) others
      | none =>
          simp only [behindColon, belowKey, inline, Option.map_none, Option.getD_none,
            Option.isSome_none, Bool.false_eq_true, if_false] at read ⊢
          rw [allLines_block inline] at value
          refine entries?_block read (fun line member => ?_) (rest.stops column) value others
          have := le_indent_of_mem_placed member
          omega
termination_by sizeOf entries

/-- The lines of items are read as the values that they spell. -/
theorem items?_lines {items : List Node} {values : List Json}
    (each : SpellsItems float? items values) (column : Nat)
    : items? float? column (placed column (Node.itemLines items)) = some values := by
  cases each with
  | nil => rw [Node.itemLines, placed, List.map_nil, items?]
  | @cons item value items values spells rest =>
      have others := items?_lines rest column
      have value := node?_lines spells (column + 2)
      rw [← itemBody_item spells column] at value
      rw [itemLines_cons, placed_cons, placed_append, placed_indented, Line.of_begins (by decide)]
      refine items?_item (dash?_behindDash item) (fun line member => ?_) (items_stop column items)
        value others
      have := le_indent_of_mem_placed member
      omega
termination_by sizeOf items

end

end ComponentCrd.Yaml.Reader
