import ComponentCrd.Manifest.Definition
import ComponentCrd.Proofs.Manifest.NodeTexts
import ComponentCrd.Proofs.Manifest.NumberScalars
import ComponentCrd.Proofs.Manifest.QuotedBodies
import ComponentCrd.Proofs.Manifest.StringScalars

/-! What ends a line for a reader. The two versions of YAML differ here: the older one also ends
lines at the next-line control and at the two separators of lines and paragraphs. No key and no
scalar holds a line end of the newer version; of the older one they hold the separators, wherever
the string holds them, and nothing else.
-/

namespace ComponentCrd.Yaml

-----------------------------------------------------------------------------------------
-- Line ends
-----------------------------------------------------------------------------------------

/-- The versions of YAML. -/
inductive Version where
  | v1_1
  | v1_2
deriving DecidableEq, Repr

/-- The separators of lines and of paragraphs. -/
def separators : List Char := ['\u2028', '\u2029']

/-- The characters that end a line. -/
def Version.breaks : Version → List Char
  | .v1_1 => ['\n', '\r', '\x85'] ++ separators
  | .v1_2 => ['\n', '\r']

/-- The lines of a text for a reader. A carriage return and the line feed behind it end one line. -/
def Version.linesOf (version : Version) : List Char → List (List Char)
  | [] => []
  | c :: rest =>
      if c = '\r' ∧ rest.head? = some '\n' then
        version.linesOf rest
      else if c ∈ version.breaks then
        [] :: version.linesOf rest
      else
        match version.linesOf rest with
        | [] => [[c]]
        | first :: others => (c :: first) :: others

theorem Version.lineFeed_mem_breaks (version : Version) : '\n' ∈ version.breaks := by
  cases version <;> decide

theorem Version.mem_breaks_v1_1 {version : Version} {c : Char} (ends : c ∈ version.breaks)
    : c ∈ Version.v1_1.breaks := by
  cases version with
  | v1_1 => exact ends
  | v1_2 => exact List.mem_append_left _ (List.mem_append_left ['\x85'] ends)

/-- A line end of the newer version is no separator. -/
theorem not_mem_separators {c : Char} (ends : c ∈ Version.v1_2.breaks) : c ∉ separators := by
  intro separator
  have apart : Version.v1_2.breaks.all fun c => !separators.contains c := by decide
  simpa [separator] using List.all_eq_true.mp apart c ends

/-- No line holds what ends a line, by induction on the text. -/
theorem Version.not_mem_of_mem_linesOf {version : Version} {text line : List Char}
    (member : line ∈ version.linesOf text)
    : ∀ c ∈ line, c ∉ version.breaks := by
  induction text generalizing line with
  | nil => cases member
  | cons first rest ih =>
      rw [linesOf] at member
      split at member
      · exact ih member
      · split at member
        · rcases List.mem_cons.mp member with rfl | later
          · simp
          · exact ih later
        · next inside =>
            split at member
            · obtain rfl := List.mem_singleton.mp member
              exact List.forall_mem_singleton.mpr inside
            · next own others same =>
                rw [same] at ih
                rcases List.mem_cons.mp member with rfl | later
                · exact List.forall_mem_cons.mpr ⟨inside, ih (.head _)⟩
                · exact ih (.tail _ later)

theorem Version.linesOf_append {version : Version} {line : List Char}
    (unbroken : ∀ c ∈ line, c ∉ version.breaks) (rest : List Char)
    : version.linesOf (line ++ '\n' :: rest) = line :: version.linesOf rest := by
  induction line with
  | nil =>
      rw [List.nil_append, linesOf, if_neg (by simp), if_pos version.lineFeed_mem_breaks]
  | cons c others ih =>
      obtain ⟨own, behind⟩ := List.forall_mem_cons.mp unbroken
      have noReturn : c ≠ '\r' := by
        rintro rfl
        exact own (by cases version <;> decide)
      rw [List.cons_append, linesOf, if_neg (fun both => noReturn both.1), if_neg own, ih behind]

/-- A text of ended lines falls into these lines exactly if none of them holds a line end. -/
theorem Version.linesOf_flatMap_iff {version : Version} {lines : List (List Char)}
    : version.linesOf (lines.flatMap (· ++ ['\n'])) = lines
      ↔ ∀ line ∈ lines, ∀ c ∈ line, c ∉ version.breaks := by
  constructor
  · intro same line member
    rw [← same] at member
    exact not_mem_of_mem_linesOf member
  · intro unbroken
    induction lines with
    | nil => rfl
    | cons line rest ih =>
        obtain ⟨own, others⟩ := List.forall_mem_cons.mp unbroken
        rw [List.flatMap_cons, List.append_assoc, List.singleton_append, linesOf_append own,
          ih others]

-----------------------------------------------------------------------------------------
-- Scalars of strings
-----------------------------------------------------------------------------------------

variable {c : Char}

/-- No line end is printable ASCII. -/
theorem not_break_of_isAscii (ascii : Reader.IsAscii c) : c ∉ Version.v1_1.breaks := by
  intro ends
  have outside
      : Version.v1_1.breaks.all fun c => !(0x20 ≤ c.toNat && c.toNat < 0x7F) := by
    decide
  simpa [ascii.1, ascii.2] using List.all_eq_true.mp outside c ends

/-- The line ends that are visible are the separators. -/
theorem mem_separators_of_visible (ends : c ∈ Version.v1_1.breaks) (visible : Reader.Visible c)
    : c ∈ separators := by
  rcases List.mem_append.mp ends with hidden | separator
  · have low : ['\n', '\r', '\x85'].all fun c => c.toNat < 0x20 || c.toNat == 0x85 := by decide
    have code := List.all_eq_true.mp low c hidden
    simp only [Bool.or_eq_true, decide_eq_true_eq, beq_iff_eq] at code
    have noControl := visible.noControl
    have noLateControl := visible.noLateControl
    omega
  · exact separator

theorem written_separator (separator : c ∈ separators) : Reader.written c = [c] := by
  simp only [separators, List.mem_cons, List.not_mem_nil, or_false] at separator
  rcases separator with rfl | rfl
  · rfl
  · rfl

/-- Of the line ends only a separator is written, and as itself only. -/
theorem eq_of_mem_writtenAs {d : Char} {own : List Char} (writtenAs : Reader.WrittenAs d own)
    (ends : c ∈ Version.v1_1.breaks) (member : c ∈ own)
    : c ∈ separators ∧ c = d := by
  cases writtenAs with
  | itself visible =>
      obtain rfl := List.mem_singleton.mp member
      exact ⟨mem_separators_of_visible ends visible, rfl⟩
  | @letter mark known =>
      have ascii : Reader.IsAscii c := by
        refine Reader.isAscii_of_mark ?_
        rcases List.mem_cons.mp member with rfl | behind
        · exact .head _
        · obtain rfl := List.mem_singleton.mp behind
          exact .tail _ (List.mem_append_left _ known)
      exact (not_break_of_isAscii ascii ends).elim
  | @code mark digits known hexadecimal =>
      have ascii : Reader.IsAscii c := by
        rcases List.mem_cons.mp member with rfl | behind
        · exact Reader.isAscii_of_mark (.head _)
        · rcases List.mem_cons.mp behind with rfl | digit
          · exact Reader.isAscii_of_mark (.tail _ (List.mem_append_right _ known))
          · exact (Reader.isAscii_of_isAlphanum (hexadecimal c digit)).1
      exact (not_break_of_isAscii ascii ends).elim

theorem mem_written_iff {d : Char} (ends : c ∈ Version.v1_1.breaks)
    : c ∈ Reader.written d ↔ c ∈ separators ∧ c = d := by
  constructor
  · exact eq_of_mem_writtenAs (Reader.writtenAs_written d) ends
  · rintro ⟨separator, rfl⟩
    rw [written_separator separator]
    exact .head _

/-- Between quotes stand the separators of the text, and no other line ends. -/
theorem mem_doubleQuoted_iff {text : String} (ends : c ∈ Version.v1_1.breaks)
    : c ∈ doubleQuoted text ↔ c ∈ separators ∧ c ∈ text.toList := by
  have noQuote : c ≠ '"' := by
    rintro rfl
    exact absurd ends (by decide)
  simp [Reader.doubleQuoted_eq, mem_written_iff ends, noQuote, and_comm]

/-- A scalar holds the separators of its text, and no other line ends: a plain one holds none. -/
theorem mem_scalarOf_iff {text : String} (ends : c ∈ Version.v1_1.breaks)
    : c ∈ scalarOf text ↔ c ∈ separators ∧ c ∈ text.toList := by
  unfold scalarOf
  split
  · next plain =>
      have absent : c ∉ text.toList := fun member =>
        Reader.not_mem_of_isPlain plain (by decide) member ends
      simp [absent]
  · exact mem_doubleQuoted_iff ends

-----------------------------------------------------------------------------------------
-- Nodes
-----------------------------------------------------------------------------------------

/-- A key or a scalar of the node holds the character. -/
def Node.Bears (node : Node) (c : Char) : Prop := ∃ own ∈ node.texts, c ∈ own

/-- A mapping lies on the lines of its document exactly if nothing in it ends a line. -/
theorem linesOf_document_iff {version : Version} {entries : List (List Char × Node)}
    : version.linesOf (Node.mapping entries).document.toList = Reader.allLines (.mapping entries)
      ↔ ∀ c ∈ version.breaks, ¬ (Node.mapping entries).Bears c := by
  rw [Reader.toList_document, Version.linesOf_flatMap_iff]
  constructor
  · rintro unbroken c ends ⟨own, member, inside⟩
    obtain ⟨line, stands, within⟩ := Reader.exists_line_of_texts member
    exact unbroken line stands c (within.subset inside) ends
  · intro free
    refine Reader.forall_mem_allLines ?_ fun own member c inside ends => ?_
    · intro mark layout ends
      have ascii : Node.layoutMarks.all fun mark => !Version.v1_1.breaks.contains mark := by decide
      have free := List.all_eq_true.mp ascii mark layout
      simp [Version.mem_breaks_v1_1 ends] at free
    · exact free c ends ⟨own, member, inside⟩

/-- A reader finds the lines of a text where the writer of a node ended them, and every key and
every scalar of the node whole on one of them.
-/
structure KeepsLines (version : Version) (root : Node) (text : String) : Prop where
  lines : version.linesOf text.toList = Reader.allLines root
  whole : ∀ own ∈ root.texts, ∃ line ∈ version.linesOf text.toList, own <:+: line

theorem keepsLines_iff {version : Version} {entries : List (List Char × Node)}
    : KeepsLines version (.mapping entries) (Node.mapping entries).document
      ↔ ∀ c ∈ version.breaks, ¬ (Node.mapping entries).Bears c := by
  rw [← linesOf_document_iff]
  constructor
  · exact KeepsLines.lines
  · intro same
    exact ⟨same, fun own member => same ▸ Reader.exists_line_of_texts member⟩

end ComponentCrd.Yaml

namespace ComponentCrd.Json

mutual

/-- The strings in a value, the names of members among them. -/
def strings : Json → List String
  | .string text => [text]
  | .array items => itemStrings items
  | .object members => memberStrings members
  | _ => []

/-- The strings in the items of a list. -/
def itemStrings : List Json → List String
  | [] => []
  | item :: rest => strings item ++ itemStrings rest

/-- The names of members and the strings in their values. -/
def memberStrings : List (String × Json) → List String
  | [] => []
  | (name, value) :: rest => name :: (strings value ++ memberStrings rest)

end

end ComponentCrd.Json

namespace ComponentCrd.Yaml

variable {c : Char}

/-- The character is a separator that one of the texts holds. -/
def Separates (c : Char) (texts : List String) : Prop :=
  c ∈ separators ∧ ∃ text ∈ texts, c ∈ text.toList

theorem not_separates_nil : ¬ Separates c [] := by
  simp [Separates]

theorem separates_append {first second : List String}
    : Separates c (first ++ second) ↔ Separates c first ∨ Separates c second := by
  simp only [Separates, List.mem_append, or_and_right, exists_or, and_or_left]

theorem separates_cons {text : String} {rest : List String}
    : Separates c (text :: rest) ↔ Separates c [text] ∨ Separates c rest := by
  change Separates c ([text] ++ rest) ↔ _
  exact separates_append

-----------------------------------------------------------------------------------------
-- The nodes of values
-----------------------------------------------------------------------------------------

namespace Node

theorem bears_scalar {text : List Char} : (scalar text).Bears c ↔ c ∈ text := by
  simp [Bears, texts]

theorem not_bears_emptyMapping : ¬ (mapping []).Bears c := by
  simp [Bears, texts, entryTexts]

theorem bears_mapping {key : List Char} {value : Node} {rest : List (List Char × Node)}
    : (mapping ((key, value) :: rest)).Bears c
      ↔ c ∈ key ∨ value.Bears c ∨ (mapping rest).Bears c := by
  simp only [Bears, texts, entryTexts, List.mem_cons, List.mem_append, or_and_right, exists_or,
    exists_eq_left]

theorem not_bears_emptySequence : ¬ (sequence []).Bears c := by
  simp [Bears, texts, itemTexts]

theorem bears_sequence {item : Node} {rest : List Node}
    : (sequence (item :: rest)).Bears c ↔ item.Bears c ∨ (sequence rest).Bears c := by
  simp only [Bears, texts, itemTexts, List.mem_append, or_and_right, exists_or]

/-- Printable ASCII characters end no line. -/
theorem not_bears_of_isAscii {text : List Char} (ascii : ∀ d ∈ text, Reader.IsAscii d)
    (ends : c ∈ Version.v1_1.breaks)
    : ¬ (scalar text).Bears c :=
  fun bears => not_break_of_isAscii (ascii c (bears_scalar.mp bears)) ends

theorem bears_ofString {text : String} (ends : c ∈ Version.v1_1.breaks)
    : (ofString text).Bears c ↔ Separates c [text] := by
  simp [ofString, bears_scalar, Separates, mem_scalarOf_iff ends]

theorem bears_ofQuoted {text : String} (ends : c ∈ Version.v1_1.breaks)
    : (ofQuoted text).Bears c ↔ Separates c [text] := by
  simp [ofQuoted, bears_scalar, Separates, mem_doubleQuoted_iff ends]

theorem not_bears_number (number : Number) (ends : c ∈ Version.v1_1.breaks)
    : ¬ (scalar number.chars).Bears c := by
  refine not_bears_of_isAscii (fun d member => ?_) ends
  rcases (Reader.numeric_chars number).chars d member with digit | mark
  · exact (Reader.isAscii_of_isAlphanum (by simp [Char.isAlphanum, digit])).1
  · exact Reader.isAscii_of_mem mark (by decide)

theorem not_bears_ofBool (truth : Bool) (ends : c ∈ Version.v1_1.breaks)
    : ¬ (ofBool truth).Bears c := by
  refine not_bears_of_isAscii (fun d member => Reader.isAscii_of_mem member ?_) ends
  cases truth <;> decide

mutual

/-- The keys and scalars of the node of a value hold the separators in its strings, and no other
line ends, by mutual recursion on values, items and members.
-/
theorem bears_ofJson {value : Json} (key? : Option String) (ends : c ∈ Version.v1_1.breaks)
    : (ofJson key? value).Bears c ↔ Separates c value.strings := by
  cases value with
  | null =>
      rw [ofJson]
      refine iff_of_false (not_bears_of_isAscii (fun d member => ?_) ends) not_separates_nil
      exact Reader.isAscii_of_mem member (by decide)
  | bool truth =>
      rw [ofJson]
      exact iff_of_false (not_bears_ofBool truth ends) not_separates_nil
  | number number =>
      rw [ofJson]
      exact iff_of_false (not_bears_number number ends) not_separates_nil
  | string text =>
      rw [ofJson]
      split
      · exact bears_ofQuoted ends
      · exact bears_ofString ends
  | array items =>
      rw [ofJson]
      exact bears_itemsOfJson ends
  | object members =>
      rw [ofJson]
      exact bears_entriesOfJson ends
termination_by sizeOf value

theorem bears_itemsOfJson {items : List Json} (ends : c ∈ Version.v1_1.breaks)
    : (sequence (itemsOfJson items)).Bears c ↔ Separates c (Json.itemStrings items) := by
  cases items with
  | nil => exact iff_of_false not_bears_emptySequence not_separates_nil
  | cons item rest =>
      rw [itemsOfJson, bears_sequence, Json.itemStrings, separates_append, bears_ofJson none ends,
        bears_itemsOfJson ends]
termination_by sizeOf items

theorem bears_entriesOfJson {members : List (String × Json)} (ends : c ∈ Version.v1_1.breaks)
    : (mapping (entriesOfJson members)).Bears c ↔ Separates c (Json.memberStrings members) := by
  match members with
  | [] => exact iff_of_false not_bears_emptyMapping not_separates_nil
  | (name, value) :: rest =>
      have key : c ∈ scalarOf name ↔ Separates c [name] := by
        simpa [ofString, bears_scalar] using bears_ofString ends
      rw [entriesOfJson, bears_mapping, Json.memberStrings, separates_cons, separates_append, key,
        bears_ofJson (some name) ends, bears_entriesOfJson ends]
termination_by sizeOf members

end

end Node

end ComponentCrd.Yaml
