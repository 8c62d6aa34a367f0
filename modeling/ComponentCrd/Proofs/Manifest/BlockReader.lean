import ComponentCrd.Proofs.Cuts
import ComponentCrd.Proofs.Manifest.ScalarReader

/-! A reader of YAML 1.2 documents in block style. Where a node ends is decided by indentation: the
lines of a block node begin at its column or further to the right, and what stands below a key or a
dash is further to the right than the key or the dash, apart from a list below a key, which may
begin at its column. A collection may begin behind a dash, at the column where it stands. Blank
lines, markers between documents and scalars over several lines are not read.
-/

namespace ComponentCrd.Yaml.Reader

-----------------------------------------------------------------------------------------
-- Lines
-----------------------------------------------------------------------------------------

/-- The lines of a text, without the breaks that end them. -/
def linesOf : List Char → List (List Char)
  | [] => []
  | c :: rest =>
      if c = '\n' then
        [] :: linesOf rest
      else
        match linesOf rest with
        | [] => [[c]]
        | first :: others => (c :: first) :: others

/-- A line: the blanks it begins with, and what follows them. -/
structure Line where
  indent : Nat
  content : List Char

namespace Line

/-- The line of some characters. -/
def of (chars : List Char) : Line :=
  ⟨(chars.takeWhile (· == ' ')).length, chars.dropWhile (· == ' ')⟩

/-- A line further to the right. -/
def shift (width : Nat) (line : Line) : Line := ⟨width + line.indent, line.content⟩

end Line

/-- How much there is to read in some lines. -/
def weight : List Line → Nat
  | [] => 0
  | line :: rest => line.content.length + 1 + weight rest

theorem weight_takeWhile_le (belongs : Line → Bool) (lines : List Line)
    : weight (lines.takeWhile belongs) ≤ weight lines := by
  induction lines with
  | nil => exact Nat.le_refl _
  | cons line rest ih =>
      rw [List.takeWhile_cons]
      split
      · rw [weight, weight]
        omega
      · exact Nat.zero_le _

theorem weight_dropWhile_le (belongs : Line → Bool) (lines : List Line)
    : weight (lines.dropWhile belongs) ≤ weight lines := by
  induction lines with
  | nil => exact Nat.le_refl _
  | cons line rest ih =>
      rw [List.dropWhile_cons]
      split
      · rw [weight]
        omega
      · exact Nat.le_refl _

/-- What follows the dash of an item. -/
def dash? : List Char → Option (List Char)
  | ['-'] => some []
  | '-' :: ' ' :: rest => some rest
  | _ => none

theorem dash?_length {text after : List Char} (read : dash? text = some after)
    : after.length < text.length := by
  unfold dash? at read
  split at read
  · obtain rfl := Option.some.inj read
    exact Nat.zero_lt_one
  · obtain rfl := Option.some.inj read
    simp only [List.length_cons]
    omega
  · cases read

-----------------------------------------------------------------------------------------
-- Block nodes
-----------------------------------------------------------------------------------------

/-- The lines of an item: what stands behind its dash, as if the dash were a blank, and the lines
below that are further to the right than the dash.
-/
def itemBody (column : Nat) (after : List Char) (rest : List Line) : List Line :=
  let first := (Line.of after).shift (column + 2)
  let below := rest.takeWhile (column < ·.indent)
  if first.content.isEmpty then below else first :: below

/-- Whether a line below the key of an entry belongs to the entry: it is further to the right, or
an item at the column of the key.
-/
def belongsToEntry (column : Nat) (line : Line) : Bool :=
  column < line.indent || (line.indent == column && (dash? line.content).isSome)

theorem weight_itemBody_le (column : Nat) (after : List Char) (rest : List Line)
    : weight (itemBody column after rest) ≤ after.length + 1 + weight rest := by
  have below := weight_takeWhile_le (column < ·.indent) rest
  have inner : (Line.of after).content.length ≤ after.length :=
    (List.dropWhile_sublist _).length_le
  unfold itemBody
  dsimp only
  split
  · omega
  · rw [weight]
    dsimp only [Line.shift]
    omega

variable (float? : List Char → Option Binary64)

mutual

/-- The value of a node that some lines hold. -/
def node? (lines : List Line) : Option Json :=
  match lines with
  | [] => none
  | first :: rest =>
      if (dash? first.content).isSome then
        (items? first.indent (first :: rest)).map .array
      else if (key? float? first.content).isSome then
        match entries? first.indent (first :: rest) with
        | some members => if (members.map Prod.fst).Nodup then some (.object members) else none
        | none => none
      else if rest.isEmpty then
        value? float? first.content
      else
        none
termination_by 2 * weight lines + 1

/-- The values of the items of a sequence whose dashes stand at a column. -/
def items? (column : Nat) (lines : List Line) : Option (List Json) :=
  match lines with
  | [] => some []
  | line :: rest =>
      match h : dash? line.content with
      | none => none
      | some after =>
          if line.indent = column then
            have := dash?_length h
            have := weight_itemBody_le column after rest
            have := weight_dropWhile_le (column < ·.indent) rest
            let body := itemBody column after rest
            let item? := if body.isEmpty then some .null else node? body
            match item?, items? column (rest.dropWhile (column < ·.indent)) with
            | some item, some others => some (item :: others)
            | _, _ => none
          else
            none
termination_by 2 * weight lines
decreasing_by all_goals rw [weight]; omega

/-- The names and values of the entries of a mapping whose keys stand at a column. -/
def entries? (column : Nat) (lines : List Line) : Option (List (String × Json)) :=
  match lines with
  | [] => some []
  | line :: rest =>
      match key? float? line.content with
      | none => none
      | some (name, after) =>
          if line.indent = column then
            have := weight_takeWhile_le (belongsToEntry column) rest
            have := weight_dropWhile_le (belongsToEntry column) rest
            let body := rest.takeWhile (belongsToEntry column)
            let text := after.dropWhile (· == ' ')
            let found? :=
              if text.isEmpty then
                if body.isEmpty then some .null else node? body
              else if body.isEmpty then value? float? text else none
            match found?, entries? column (rest.dropWhile (belongsToEntry column)) with
            | some value, some others => some ((name, value) :: others)
            | _, _ => none
          else
            none
termination_by 2 * weight lines
decreasing_by all_goals rw [weight]; omega

end

/-- Whether a line is a marker between documents. -/
def isMarker (line : List Char) : Bool :=
  (line.take 3 == ['-', '-', '-'] || line.take 3 == ['.', '.', '.']) && isSeparated (line.drop 3)

/-- The value of the document that a text holds. -/
def document? (text : String) : Option Json :=
  let lines := linesOf text.toList
  if lines.any isMarker then none else node? float? (lines.map Line.of)

end ComponentCrd.Yaml.Reader
