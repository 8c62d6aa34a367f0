import ComponentCrd.Proofs.Manifest.BlockLayout

/-! The keys and scalars of a node in its lines: each stands whole on one of the lines, and besides
them the lines hold only a few marks, by which the node is laid out.
-/

namespace ComponentCrd.Yaml

-----------------------------------------------------------------------------------------
-- Keys and scalars
-----------------------------------------------------------------------------------------

namespace Node

mutual

/-- The keys and scalars of a node, as they are written. -/
def texts : Node → List (List Char)
  | .scalar text => [text]
  | .mapping entries => entryTexts entries
  | .sequence items => itemTexts items

/-- The keys and scalars of the entries of a mapping. -/
def entryTexts : List (List Char × Node) → List (List Char)
  | [] => []
  | (key, value) :: rest => key :: (texts value ++ entryTexts rest)

/-- The scalars and keys of the items of a sequence. -/
def itemTexts : List Node → List (List Char)
  | [] => []
  | item :: rest => texts item ++ itemTexts rest

end

/-- The marks that lay out a node. -/
def layoutMarks : List Char := [' ', '-', ':', '[', ']', '\x7b', '\x7d']

end Node

namespace Reader

open Node

-----------------------------------------------------------------------------------------
-- Each text stands on a line
-----------------------------------------------------------------------------------------

theorem suffix_indented (line : List Char) : line <:+ indented line :=
  List.suffix_append [' ', ' '] line

theorem suffix_behindDash (line : List Char) : line <:+ '-' :: ' ' :: line :=
  List.suffix_append ['-', ' '] line

/-- Each line of a value is the end of the line of its key or of one below it. -/
theorem exists_line_of_entry (key : List Char) {node : Node} {line : List Char}
    (member : line ∈ allLines node)
    : ∃ shown ∈ (key ++ ':' :: behindColon node) :: (belowKey node).map indented,
        line <:+ shown := by
  cases inline : node.inline? with
  | some text =>
      rw [allLines_inline inline] at member
      obtain rfl := List.mem_singleton.mp member
      have shown : key ++ ':' :: behindColon node = key ++ [':', ' '] ++ line := by
        simp [behindColon, inline]
      exact ⟨_, .head _, shown ▸ List.suffix_append _ line⟩
  | none =>
      rw [allLines_block inline] at member
      refine ⟨indented line, .tail _ (List.mem_map_of_mem ?_), suffix_indented line⟩
      simpa [belowKey, inline] using member

/-- Each line of an item is the end of the line of its dash or of one below it. -/
theorem exists_line_of_item {item : Node} {line : List Char} (member : line ∈ allLines item)
    : ∃ shown ∈ ('-' :: behindDash item) :: (belowDash item).map indented, line <:+ shown := by
  cases item with
  | scalar text =>
      obtain rfl := List.mem_singleton.mp member
      exact ⟨_, .head _, suffix_behindDash line⟩
  | sequence items =>
      cases items with
      | nil =>
          obtain rfl := List.mem_singleton.mp member
          exact ⟨_, .head _, suffix_behindDash _⟩
      | cons => exact ⟨_, .tail _ (List.mem_map_of_mem member), suffix_indented line⟩
  | mapping entries =>
      cases entries with
      | nil =>
          obtain rfl := List.mem_singleton.mp member
          exact ⟨_, .head _, suffix_behindDash _⟩
      | cons entry rest =>
          rw [allLines_block rfl, lines] at member
          simp only [behindDash, belowDash]
          cases same : entryLines (entry :: rest) with
          | nil => simp [same] at member
          | cons first others =>
              rw [same] at member
              rcases List.mem_cons.mp member with rfl | later
              · exact ⟨_, .head _, suffix_behindDash line⟩
              · exact ⟨_, .tail _ (List.mem_map_of_mem later), suffix_indented line⟩

mutual

/-- Each key and each scalar of a node stands on one of its lines, by mutual recursion on nodes,
entries and items.
-/
theorem exists_line_of_texts {node : Node} {own : List Char} (member : own ∈ node.texts)
    : ∃ line ∈ allLines node, own <:+: line := by
  match node, member with
  | .scalar text, member =>
      obtain rfl := List.mem_singleton.mp member
      exact ⟨own, .head _, List.infix_rfl⟩
  | .mapping (entry :: rest), member =>
      rw [allLines_block rfl]
      exact exists_line_of_entryTexts member
  | .sequence (item :: rest), member =>
      rw [allLines_block rfl]
      exact exists_line_of_itemTexts member
termination_by sizeOf node

/-- Each key and each scalar of entries stands on one of their lines. -/
theorem exists_line_of_entryTexts {entries : List (List Char × Node)} {own : List Char}
    (member : own ∈ entryTexts entries)
    : ∃ line ∈ entryLines entries, own <:+: line := by
  match entries, member with
  | (key, value) :: rest, member =>
      rw [entryLines_cons, ← List.cons_append]
      simp only [entryTexts, List.mem_cons, List.mem_append] at member
      rcases member with rfl | inside | later
      · exact ⟨_, .head _, (List.prefix_append own _).isInfix⟩
      · obtain ⟨line, stands, within⟩ := exists_line_of_texts inside
        obtain ⟨shown, found, ends⟩ := exists_line_of_entry key stands
        exact ⟨shown, List.mem_append_left _ found, within.trans ends.isInfix⟩
      · obtain ⟨line, stands, within⟩ := exists_line_of_entryTexts later
        exact ⟨line, List.mem_append_right _ stands, within⟩
termination_by sizeOf entries

/-- Each key and each scalar of items stands on one of their lines. -/
theorem exists_line_of_itemTexts {items : List Node} {own : List Char}
    (member : own ∈ itemTexts items)
    : ∃ line ∈ itemLines items, own <:+: line := by
  match items, member with
  | item :: rest, member =>
      rw [itemLines_cons, ← List.cons_append]
      rcases List.mem_append.mp member with inside | later
      · obtain ⟨line, stands, within⟩ := exists_line_of_texts inside
        obtain ⟨shown, found, ends⟩ := exists_line_of_item stands
        exact ⟨shown, List.mem_append_left _ found, within.trans ends.isInfix⟩
      · obtain ⟨line, stands, within⟩ := exists_line_of_itemTexts later
        exact ⟨line, List.mem_append_right _ stands, within⟩
termination_by sizeOf items

end

-----------------------------------------------------------------------------------------
-- The lines hold nothing else
-----------------------------------------------------------------------------------------

variable {Stands : Char → Prop}

/-- Whatever holds of the marks of the layout holds of the characters of indented lines if it does
of the lines.
-/
theorem forall_mem_indented (marks : ∀ mark ∈ layoutMarks, Stands mark)
    {lines : List (List Char)} (each : ∀ line ∈ lines, ∀ c ∈ line, Stands c)
    : ∀ line ∈ lines.map indented, ∀ c ∈ line, Stands c := by
  have blank : Stands ' ' := marks _ (by decide)
  intro line member
  obtain ⟨inner, inside, rfl⟩ := List.mem_map.mp member
  exact List.forall_mem_cons.mpr ⟨blank, List.forall_mem_cons.mpr ⟨blank, each inner inside⟩⟩

/-- The lines of an entry, where the key and the lines of the value are known. -/
theorem forall_mem_entry (marks : ∀ mark ∈ layoutMarks, Stands mark) {key : List Char}
    {node : Node} (keyed : ∀ c ∈ key, Stands c)
    (each : ∀ line ∈ allLines node, ∀ c ∈ line, Stands c)
    : ∀ line ∈ (key ++ ':' :: behindColon node) :: (belowKey node).map indented,
        ∀ c ∈ line, Stands c := by
  have colon : Stands ':' := marks _ (by decide)
  have blank : Stands ' ' := marks _ (by decide)
  rw [List.forall_mem_cons]
  simp only [List.forall_mem_append, List.forall_mem_cons]
  cases inline : node.inline? with
  | some text =>
      rw [allLines_inline inline, List.forall_mem_singleton] at each
      simp only [behindColon, belowKey, inline, Option.map_some, Option.getD_some,
        Option.isSome_some, if_true, List.forall_mem_cons]
      exact ⟨⟨keyed, colon, blank, each⟩, by simp⟩
  | none =>
      rw [allLines_block inline] at each
      simp only [behindColon, belowKey, inline, Option.map_none, Option.getD_none,
        Option.isSome_none, Bool.false_eq_true, if_false]
      exact ⟨⟨keyed, colon, by simp⟩, forall_mem_indented marks each⟩

/-- The lines of an item, where the lines of its node are known. -/
theorem forall_mem_item (marks : ∀ mark ∈ layoutMarks, Stands mark) {item : Node}
    (each : ∀ line ∈ allLines item, ∀ c ∈ line, Stands c)
    : ∀ line ∈ ('-' :: behindDash item) :: (belowDash item).map indented,
        ∀ c ∈ line, Stands c := by
  have dash : Stands '-' := marks _ (by decide)
  have blank : Stands ' ' := marks _ (by decide)
  rw [List.forall_mem_cons, List.forall_mem_cons]
  cases item with
  | scalar text =>
      have own : ∀ c ∈ text, Stands c := each text (.head _)
      exact ⟨⟨dash, List.forall_mem_cons.mpr ⟨blank, own⟩⟩, by simp [belowDash]⟩
  | sequence items =>
      cases items with
      | nil =>
          have own : ∀ c ∈ ['[', ']'], Stands c := each _ (.head _)
          exact ⟨⟨dash, List.forall_mem_cons.mpr ⟨blank, own⟩⟩, by simp [belowDash, itemLines]⟩
      | cons => exact ⟨⟨dash, by simp [behindDash]⟩, forall_mem_indented marks each⟩
  | mapping entries =>
      cases entries with
      | nil =>
          have own : ∀ c ∈ ['\x7b', '\x7d'], Stands c := each _ (.head _)
          exact ⟨⟨dash, List.forall_mem_cons.mpr ⟨blank, own⟩⟩, by simp [belowDash, entryLines]⟩
      | cons entry rest =>
          rw [allLines_block rfl, lines] at each
          simp only [behindDash, belowDash]
          cases same : entryLines (entry :: rest) with
          | nil => exact ⟨⟨dash, by simp [blank]⟩, by simp⟩
          | cons first others =>
              rw [same] at each
              obtain ⟨own, below⟩ := List.forall_mem_cons.mp each
              exact ⟨⟨dash, List.forall_mem_cons.mpr ⟨blank, own⟩⟩,
                forall_mem_indented marks below⟩

mutual

/-- Whatever holds of the marks of the layout and of the characters of the keys and scalars of a
node holds of all characters of its lines, by mutual recursion on nodes, entries and items.
-/
theorem forall_mem_allLines (marks : ∀ mark ∈ layoutMarks, Stands mark) {node : Node}
    (texts : ∀ own ∈ node.texts, ∀ c ∈ own, Stands c)
    : ∀ line ∈ allLines node, ∀ c ∈ line, Stands c := by
  match node, texts with
  | .scalar text, texts => exact texts
  | .mapping [], _ =>
      refine List.forall_mem_singleton.mpr fun c member => marks c ?_
      simp only [List.mem_cons, List.not_mem_nil, or_false] at member
      rcases member with rfl | rfl <;> decide
  | .mapping (entry :: rest), texts =>
      rw [allLines_block rfl]
      exact forall_mem_entryLines marks texts
  | .sequence [], _ =>
      refine List.forall_mem_singleton.mpr fun c member => marks c ?_
      simp only [List.mem_cons, List.not_mem_nil, or_false] at member
      rcases member with rfl | rfl <;> decide
  | .sequence (item :: rest), texts =>
      rw [allLines_block rfl]
      exact forall_mem_itemLines marks texts
termination_by sizeOf node

/-- The lines of entries. -/
theorem forall_mem_entryLines (marks : ∀ mark ∈ layoutMarks, Stands mark)
    {entries : List (List Char × Node)} (texts : ∀ own ∈ entryTexts entries, ∀ c ∈ own, Stands c)
    : ∀ line ∈ entryLines entries, ∀ c ∈ line, Stands c := by
  match entries, texts with
  | [], _ => simp [entryLines]
  | (key, value) :: rest, texts =>
      rw [entryTexts, List.forall_mem_cons, List.forall_mem_append] at texts
      obtain ⟨keyed, inside, later⟩ := texts
      rw [entryLines_cons, ← List.cons_append, List.forall_mem_append]
      exact ⟨forall_mem_entry marks keyed (forall_mem_allLines marks inside),
        forall_mem_entryLines marks later⟩
termination_by sizeOf entries

/-- The lines of items. -/
theorem forall_mem_itemLines (marks : ∀ mark ∈ layoutMarks, Stands mark) {items : List Node}
    (texts : ∀ own ∈ itemTexts items, ∀ c ∈ own, Stands c)
    : ∀ line ∈ itemLines items, ∀ c ∈ line, Stands c := by
  match items, texts with
  | [], _ => simp [itemLines]
  | item :: rest, texts =>
      rw [itemTexts, List.forall_mem_append] at texts
      rw [itemLines_cons, ← List.cons_append, List.forall_mem_append]
      exact ⟨forall_mem_item marks (forall_mem_allLines marks texts.1),
        forall_mem_itemLines marks texts.2⟩
termination_by sizeOf items

end

end Reader

end ComponentCrd.Yaml
