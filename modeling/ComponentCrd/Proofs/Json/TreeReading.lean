import ComponentCrd.Proofs.Json.SkippedTrees
import Mathlib.Data.Option.Basic

/-! Readers follow trees: what a text holds is what its tree means to the reader, whatever blanks
are between its tokens. A reader is taken to be right about what is inside of brackets and is then
right about the bracket; values are settled by induction on the room for brackets.
-/

namespace ComponentCrd.Json

open StringPart ComponentCrd.Json.Tree

variable {α σ : Type}

/-- A reader makes of every text of the tree, with blanks before it, what the tree means. -/
def ReadsTree (read : Decoder α) (meaning : Tree → Option α) (tree : Tree) : Prop :=
  ∀ before own rest, Blank before → tree.Spells own → Ends rest →
    Reads read (before ++ (own ++ rest)) (meaning tree) rest

variable {rest : List UInt8}

/-- Blanks do not matter to a reader. -/
def Blind (read : Decoder α) : Prop := ∀ c c' : Cursor, c.blanks = c'.blanks → read c = read c'

theorem readsTree_of_blind {read : Decoder α} {meaning : Tree → Option α} {tree : Tree}
    (blind : Blind read)
    (reads : ∀ own rest, tree.Spells own → Ends rest → Reads read (own ++ rest) (meaning tree) rest)
    : ReadsTree read meaning tree := by
  intro before own rest blank spelled ends offset
  obtain ⟨byte, others, rfl, visible, _⟩ := spelled.cons
  have same : (⟨before ++ (byte :: others ++ rest), offset⟩ : Cursor).blanks
      = (⟨byte :: others ++ rest, offset + before.length⟩ : Cursor).blanks := by
    rw [List.cons_append, Cursor.blanks_append blank visible, Cursor.blanks_cons visible]
  rw [blind _ _ same]
  exact reads _ rest spelled ends _

-----------------------------------------------------------------------------------------
-- Lists
-----------------------------------------------------------------------------------------

theorem reads_nextItem {first : Bool} {separator text : List UInt8} {byte : UInt8}
    (separates : Separator first separator) (visible : Cursor.Visible byte) (bracket : byte ≠ 93)
    : Reads (Decode.nextItem first) (separator ++ byte :: text) (some true) (byte :: text) := by
  intro offset
  have bracket : Char.ofNat byte.toNat ≠ ']' := char_ne 93 rfl bracket
  cases first with
  | true =>
      rw [Decode.nextItem, Cursor.blanks_append separates visible]
      simp only [Cursor.peek?_cons, if_true]
      rfl
  | false =>
      obtain ⟨before, after, blankBefore, blankAfter, rfl⟩ := separates
      rw [Decode.nextItem, List.append_assoc, List.cons_append,
        Cursor.blanks_append blankBefore (by decide)]
      have comma : Char.ofNat (44 : UInt8).toNat = ',' := rfl
      simp only [Cursor.peek?_cons, comma, Bool.false_eq_true, if_false,
        Cursor.advance_one, Cursor.blanks_append blankAfter visible]
      rfl

theorem reads_noItem {first : Bool} {before : List UInt8} (blank : Blank before)
    : Reads (Decode.nextItem first) (before ++ 93 :: rest) (some false) (93 :: rest) := by
  intro offset
  rw [Decode.nextItem, Cursor.blanks_append blank (by decide)]
  rfl

theorem passed_closeList {before : List UInt8} {offset : Nat} (blank : Blank before)
    : passed (Decode.closeList ⟨before ++ 93 :: rest, offset⟩) = some rest := by
  rw [Decode.closeList, Cursor.blanks_append blank (by decide)]
  rfl

/-- A list is not closed before an item. -/
theorem closeList_fails {first : Bool} {separator text : List UInt8} {byte : UInt8} (offset : Nat)
    (separates : Separator first separator) (visible : Cursor.Visible byte) (bracket : byte ≠ 93)
    : ∃ fault, Decode.closeList ⟨separator ++ byte :: text, offset⟩ = .error fault := by
  have bracket : Char.ofNat byte.toNat ≠ ']' := char_ne 93 rfl bracket
  unfold Decode.closeList
  cases first with
  | true =>
      simp only [Cursor.blanks_append separates visible, Cursor.peek?_cons]
      split
      · exact absurd (Option.some.inj ‹_›) bracket
      · exact ⟨_, rfl⟩
      · exact ⟨_, rfl⟩
      · exact ⟨_, rfl⟩
  | false =>
      obtain ⟨before, after, blank, _, rfl⟩ := separates
      rw [List.append_assoc, List.cons_append, Cursor.blanks_append blank (by decide)]
      exact ⟨_, rfl⟩

/-- The items of a list are read one by one, by induction on them. -/
theorem reads_items {read : Decoder α} {meaning : Tree → Option α} {items : List Tree}
    (reads : ∀ item ∈ items, ReadsTree read meaning item) {first : Bool} {text : List UInt8}
    (spelled : Tree.SpellItems first items text) {budget : Nat} (enough : text.length < budget)
    : Reads (Decode.items read first budget) (text ++ 93 :: rest) (items.mapM meaning) rest := by
  intro offset
  obtain ⟨budget, rfl⟩ : ∃ less, budget = less + 1 := ⟨budget - 1, by omega⟩
  induction items generalizing first text budget offset with
  | nil =>
      refine outcome_then (reads_noItem spelled offset) fun offset => ?_
      exact outcome_passed (passed_closeList blank_nil) fun _ => rfl
  | cons item others ih =>
      obtain ⟨separator, own, behind, separates, spelledOwn, spelledOthers, rfl⟩ := spelled
      obtain ⟨byte, bytes, rfl, visible, bracket, _⟩ := spelledOwn.cons
      have own := reads item (.head _) [] _ (behind ++ 93 :: rest) blank_nil spelledOwn
        (ends_items spelledOthers)
      have others (offset : Nat) :=
        ih (fun item member => reads item (.tail _ member)) spelledOthers offset (budget - 1)
          (by simp at enough; omega)
      have spent : budget - 1 + 1 = budget := by simp at enough; omega
      rw [spent] at others
      simp only [List.append_assoc, List.cons_append]
      rw [List.mapM_cons, Option.bind_eq_bind, Option.map_bind]
      refine outcome_then (reads_nextItem separates visible bracket offset) fun offset => ?_
      refine outcome_bind (own offset) fun value offset => ?_
      rw [Function.comp_apply, Option.bind_eq_bind, Option.map_bind]
      exact outcome_bind (others offset) fun values offset => rfl

-----------------------------------------------------------------------------------------
-- Objects
-----------------------------------------------------------------------------------------

theorem reads_nextMember {first : Bool} {separator text : List UInt8}
    (separates : Separator first separator)
    : Reads (Decode.nextMember first) (separator ++ 34 :: text) (some true) (34 :: text) := by
  intro offset
  cases first with
  | true =>
      rw [Decode.nextMember, Cursor.blanks_append separates (by decide)]
      rfl
  | false =>
      obtain ⟨before, after, blankBefore, blankAfter, rfl⟩ := separates
      rw [Decode.nextMember, List.append_assoc, List.cons_append,
        Cursor.blanks_append blankBefore (by decide)]
      have comma : Char.ofNat (44 : UInt8).toNat = ',' := rfl
      simp only [Cursor.peek?_cons, comma, Bool.false_eq_true, if_false,
        Cursor.advance_one, Cursor.blanks_append blankAfter (show Cursor.Visible 34 by decide)]
      rfl

theorem reads_noMember {first : Bool} {before : List UInt8} (blank : Blank before)
    : Reads (Decode.nextMember first) (before ++ 125 :: rest) (some false) (125 :: rest) := by
  intro offset
  rw [Decode.nextMember, Cursor.blanks_append blank (by decide)]
  rfl

/-- A step reads the colon and the value of a member. -/
def StepReads (step : String → σ → Decoder σ) (meaning : String → σ → Tree → Option σ)
    (tree : Tree) : Prop :=
  ∀ name result colon own rest, Around 58 colon → tree.Spells own → Ends rest →
    Reads (step name result) (colon ++ (own ++ rest)) (meaning name result tree) rest

/-- The members of an object are read one by one, by induction on them. -/
theorem reads_members {step : String → σ → Decoder σ} {meaning : String → σ → Tree → Option σ}
    {members : List (List StringPart × Tree)}
    (reads : ∀ member ∈ members, StepReads step meaning member.2) {first : Bool}
    {text : List UInt8} (spelled : Tree.SpellMembers first members text) (result : σ) {budget : Nat}
    (enough : text.length < budget)
    : Reads (Decode.members step first result budget) (text ++ 125 :: rest)
        (members.foldlM (memberStep meaning) result) rest := by
  intro offset
  obtain ⟨budget, rfl⟩ : ∃ less, budget = less + 1 := ⟨budget - 1, by omega⟩
  induction members generalizing first text result budget offset with
  | nil => exact outcome_then (reads_noMember spelled offset) fun offset => rfl
  | cons member others ih =>
      obtain ⟨separator, colon, own, behind, separates, around, spelledOwn, spelledOthers, rfl⟩ :=
        spelled
      have others (result : σ) (offset : Nat) := ih
        (fun item member => reads item (.tail _ member)) spelledOthers result offset (budget - 1)
        (by simp [quoted] at enough; omega)
      have spent : budget - 1 + 1 = budget := by simp [quoted] at enough; omega
      rw [spent] at others
      simp only [quoted, List.append_assoc, List.cons_append, List.nil_append]
      rw [List.foldlM_cons, Option.bind_eq_bind, Option.map_bind, memberStep]
      refine outcome_then (reads_nextMember separates offset) fun offset => ?_
      rw [Option.bind_assoc]
      refine outcome_bind (reads_stringTail member.1 (offset + 1)) fun name offset => ?_
      refine outcome_bind (reads member (.head _) name result colon own _ around spelledOwn
        (ends_members spelledOthers) offset) fun result offset => ?_
      exact others result offset

-----------------------------------------------------------------------------------------
-- Values
-----------------------------------------------------------------------------------------

/-- A step that puts the value of a member under its name. -/
def putStep (value : Tree → Option α) (name : String) (entries : Entries α) (tree : Tree)
    : Option (Entries α) :=
  (value tree).map fun value => entries.put name value

theorem stepReads_entry {read : Decoder α} {meaning : Tree → Option α} {tree : Tree}
    (reads : ReadsTree read meaning tree)
    : StepReads (Decode.entry read) (putStep meaning) tree := by
  intro name entries colon own rest around spelled ends offset
  obtain ⟨after, blank, passes⟩ := Cursor.passed_colon around
  refine outcome_passed (passes (own ++ rest) offset) fun offset => ?_
  rw [putStep, Option.map_map, Option.map_eq_bind]
  exact outcome_bind (reads after own rest blank spelled ends offset) fun value offset => rfl

/-- Putting the members of an object one after the other makes the entries of all of them. -/
theorem foldlM_putStep (value : Tree → Option α) (members : List (List StringPart × Tree))
    : members.foldlM (memberStep (putStep value)) []
      = (members.mapM (Tree.entry value)).map Entries.ofList := by
  have accumulate (entries : Entries α)
      : members.foldlM (memberStep (putStep value)) entries
        = (members.mapM (Tree.entry value)).map fun found =>
            found.foldl (fun sorted entry => sorted.put entry.1 entry.2) entries := by
    induction members generalizing entries with
    | nil => rfl
    | cons member others ih =>
        rw [List.foldlM_cons, List.mapM_cons]
        cases named : text? member.1 with
        | none => simp [memberStep, Tree.entry, named]
        | some name =>
            cases found : value member.2 with
            | none => simp [memberStep, putStep, Tree.entry, named, found]
            | some result =>
                have step : memberStep (putStep value) entries member
                    = some (entries.put name result) := by
                  simp [memberStep, putStep, named, found]
                have own : Tree.entry value member = some (name, result) := by
                  simp [Tree.entry, named, found]
                rw [step, own, Option.bind_eq_bind, Option.bind_some, ih]
                cases others.mapM (Tree.entry value) <;> rfl
  exact accumulate []

/-- Entries are put at their places as they are read. -/
theorem reads_entries {read : Decoder α} {meaning : Tree → Option α}
    {members : List (List StringPart × Tree)}
    (reads : ∀ member ∈ members, ReadsTree read meaning member.2) {first : Bool}
    {text : List UInt8} (spelled : Tree.SpellMembers first members text) {budget : Nat}
    (enough : text.length < budget)
    : Reads (Decode.members (Decode.entry read) first [] budget) (text ++ 125 :: rest)
        ((members.mapM (Tree.entry meaning)).map Entries.ofList) rest := by
  rw [← foldlM_putStep]
  exact reads_members (fun member inside => stepReads_entry (reads member inside)) spelled [] enough

/-- The reader of what is inside of brackets is right about it, or brackets may not be opened. -/
def ReadsNested (nested? : Option (Decoder Json)) (meaning? : Option (Tree → Option Json)) : Prop :=
  Option.Rel (fun read meaning => ∀ tree, ReadsTree read meaning tree) nested? meaning?

theorem valueAround_digit {nested? : Option (Decoder Json)} {byte : UInt8} {text : List UInt8}
    {offset : Nat} (digit : isDigitByte byte)
    : Decode.valueAround nested? ⟨byte :: text, offset⟩
      = (Decode.number false ⟨byte :: text, offset⟩).map fun (value, after) =>
          (.number value, after) := by
  have visible := visible_of_isDigitByte digit
  unfold isDigitByte at digit
  have n := ne_of_isDigit 'n' digit rfl
  have t := ne_of_isDigit 't' digit rfl
  have f := ne_of_isDigit 'f' digit rfl
  have quote := ne_of_isDigit '"' digit rfl
  have minus := ne_of_isDigit '-' digit rfl
  have list := ne_of_isDigit '[' digit rfl
  have object := ne_of_isDigit '\x7b' digit rfl
  simp only [Decode.valueAround, Cursor.blanks_cons visible, Cursor.peek?_cons, digit, if_true]

theorem reads_valueAround {nested? : Option (Decoder Json)} {meaning? : Option (Tree → Option Json)}
    (nested : ReadsNested nested? meaning?) (tree : Tree)
    : ReadsTree (Decode.valueAround nested?) (Tree.valueAround meaning?) tree := by
  refine readsTree_of_blind (fun c c' same => by simp only [Decode.valueAround, same]) ?_
  intro own rest spelled ends offset
  cases tree with
  | null =>
      obtain rfl := spelled
      rfl
  | bool value =>
      cases value <;>
        obtain rfl := spelled <;>
        rfl
  | string parts =>
      obtain rfl := spelled
      have bytes : quoted parts ++ rest = 34 :: (inner parts ++ 34 :: rest) := by simp [quoted]
      rw [bytes]
      exact outcome_map (reads_stringTail parts _) fun _ _ => rfl
  | number text =>
      obtain rfl := spelled
      rcases text.bytes_cases with ⟨negative, minus⟩ | ⟨positive, byte, others, same, digits, digit⟩
      · have reads := text.reads_number ends
        rw [negative] at reads
        rw [minus]
        exact outcome_map (reads _) fun _ _ => rfl
      · have reads := text.reads_number ends
        rw [positive, digits] at reads
        rw [same, digits]
        refine (congrArg outcome (valueAround_digit digit)).trans ?_
        exact outcome_map (reads _) fun _ _ => rfl
  | array items =>
      obtain ⟨text, spelled, rfl⟩ := spelled
      have bytes : 91 :: text ++ [93] ++ rest = 91 :: (text ++ 93 :: rest) := by simp
      rw [bytes]
      cases nested with
      | none => rfl
      | some nested =>
          have enough : text.length < (text ++ 93 :: rest).length := by simp
          exact outcome_map (reads_items (fun item _ => nested item) spelled enough _)
            fun _ _ => rfl
  | object members =>
      obtain ⟨text, spelled, rfl⟩ := spelled
      have bytes : 123 :: text ++ [125] ++ rest = 123 :: (text ++ 125 :: rest) := by simp
      rw [bytes]
      cases nested with
      | none => rfl
      | some nested =>
          have enough : text.length < (text ++ 125 :: rest).length := by simp
          have reads : Reads _ (text ++ 125 :: rest) _ rest :=
            reads_entries (fun member _ => nested member.2) spelled enough
          refine (outcome_map (reads _) fun _ _ => rfl).trans ?_
          exact congrArg (Option.map (·, rest)) (Option.map_map Json.object Entries.ofList _)

/-- Values are read as trees mean them, by induction on the room for brackets. -/
theorem reads_value (room : Nat) (tree : Tree)
    : ReadsTree (Decode.value room) (Tree.value room) tree := by
  induction room generalizing tree with
  | zero => exact reads_valueAround .none tree
  | succ room ih => exact reads_valueAround (.some ih) tree

-----------------------------------------------------------------------------------------
-- Typed readers
-----------------------------------------------------------------------------------------

/-- The characters that a tree may begin with. -/
def Tree.Begins : Tree → Char → Prop
  | .null, char => char = 'n'
  | .bool value, char => value ∧ char = 't' ∨ ¬value ∧ char = 'f'
  | .number _, char => char = '-' ∨ char.isDigit
  | .string _, char => char = '"'
  | .array _, char => char = '['
  | .object _, char => char = '\x7b'

theorem Tree.Spells.begins {tree : Tree} {own : List UInt8} (spelled : tree.Spells own)
    : ∃ byte others,
        own = byte :: others ∧ Cursor.Visible byte ∧ tree.Begins (Char.ofNat byte.toNat) := by
  obtain ⟨byte, others, same, visible, _⟩ := spelled.cons
  refine ⟨byte, others, same, visible, ?_⟩
  cases tree with
  | null | string _ =>
      obtain ⟨rfl, _⟩ := List.cons.inj (same.symm.trans spelled)
      rfl
  | bool value =>
      cases value with
      | true =>
          obtain ⟨rfl, _⟩ := List.cons.inj (same.symm.trans spelled)
          exact .inl ⟨rfl, rfl⟩
      | false =>
          obtain ⟨rfl, _⟩ := List.cons.inj (same.symm.trans spelled)
          exact .inr ⟨by simp, rfl⟩
  | array _ | object _ =>
      obtain ⟨_, _, spelled⟩ := spelled
      obtain ⟨rfl, _⟩ := List.cons.inj (same.symm.trans spelled)
      rfl
  | number text =>
      rcases text.bytes_cases with ⟨_, minus⟩ | ⟨_, first, _, whole, digits, digit⟩
      · obtain ⟨rfl, _⟩ := List.cons.inj ((same.symm.trans spelled).trans minus)
        exact .inl rfl
      · obtain ⟨rfl, _⟩ := List.cons.inj (((same.symm.trans spelled).trans whole).trans digits)
        exact .inr digit

theorem Tree.Begins.ne {tree : Tree} {char : Char} (begins : tree.Begins char) (other : Char)
    (differs : ¬tree.Begins other)
    : char ≠ other := by
  rintro rfl
  exact differs begins

theorem reads_string (tree : Tree) : ReadsTree Decode.string Tree.string? tree := by
  refine readsTree_of_blind (fun c c' same => by simp only [Decode.string, same]) ?_
  intro own rest spelled ends offset
  cases tree with
  | string parts =>
      obtain rfl := spelled
      have bytes : quoted parts ++ rest = 34 :: (inner parts ++ 34 :: rest) := by simp [quoted]
      rw [bytes]
      exact reads_stringTail parts _
  | _ =>
      obtain ⟨byte, others, rfl, visible, begins⟩ := spelled.begins
      have quote := begins.ne '"' (by simp [Tree.Begins])
      simp [Decode.string, Cursor.blanks_cons visible, Cursor.peek?_cons, quote, outcome,
        Tree.string?]

theorem reads_bool (tree : Tree) : ReadsTree Decode.bool Tree.bool? tree := by
  refine readsTree_of_blind (fun c c' same => by simp only [Decode.bool, same]) ?_
  intro own rest spelled ends offset
  cases tree with
  | bool value =>
      cases value <;>
        obtain rfl := spelled <;>
        rfl
  | _ =>
      obtain ⟨byte, others, rfl, visible, begins⟩ := spelled.begins
      have t := begins.ne 't' (by simp [Tree.Begins])
      have f := begins.ne 'f' (by simp [Tree.Begins])
      simp only [Decode.bool, List.cons_append, Cursor.blanks_cons visible, Cursor.peek?_cons]
      split
      · exact absurd (Option.some.inj ‹_›) t
      · exact absurd (Option.some.inj ‹_›) f
      · rfl

section

variable {item : Nat → Decoder α} {meaning : Nat → Tree → Option α}
  (reads : ∀ room tree, ReadsTree (item room) (meaning room) tree)
include reads

theorem reads_list (room : Nat) (tree : Tree)
    : ReadsTree (Decode.list item room) (Tree.list? meaning room) tree := by
  refine readsTree_of_blind (fun c c' same => by simp only [Decode.list, same]) ?_
  intro own rest spelled ends offset
  cases tree with
  | array items =>
      obtain ⟨text, spelled, rfl⟩ := spelled
      have bytes : 91 :: text ++ [93] ++ rest = 91 :: (text ++ 93 :: rest) := by simp
      rw [bytes]
      cases room with
      | zero => rfl
      | succ room =>
          have enough : text.length < (text ++ 93 :: rest).length := by simp
          exact reads_items (fun item _ => reads room item) spelled enough _
  | _ =>
      obtain ⟨byte, others, rfl, visible, begins⟩ := spelled.begins
      have list := begins.ne '[' (by simp [Tree.Begins])
      simp [Decode.list, Cursor.blanks_cons visible, Cursor.peek?_cons, list, outcome, Tree.list?]

theorem reads_map (room : Nat) (tree : Tree)
    : ReadsTree (Decode.map item room) (Tree.map? meaning room) tree := by
  refine readsTree_of_blind (fun c c' same => by simp only [Decode.map, same]) ?_
  intro own rest spelled ends offset
  cases tree with
  | object members =>
      obtain ⟨text, spelled, rfl⟩ := spelled
      have bytes : 123 :: text ++ [125] ++ rest = 123 :: (text ++ 125 :: rest) := by simp
      rw [bytes]
      cases room with
      | zero => rfl
      | succ room =>
          have enough : text.length < (text ++ 125 :: rest).length := by simp
          exact reads_entries (fun member _ => reads room member.2) spelled enough _
  | _ =>
      obtain ⟨byte, others, rfl, visible, begins⟩ := spelled.begins
      have map := begins.ne '\x7b' (by simp [Tree.Begins])
      simp [Decode.map, Cursor.blanks_cons visible, Cursor.peek?_cons, map, outcome, Tree.map?]

end

-----------------------------------------------------------------------------------------
-- Records
-----------------------------------------------------------------------------------------

/-- A field of a record is read as its tree means it. -/
def ReadsField (field : Decode.RecordField σ) (meaning : Tree.Field σ) : Prop :=
  field.name = meaning.name ∧ ∀ room tree, ReadsTree (field.read room) (meaning.put? room) tree

theorem reads_field {read : Nat → Decoder α} {meaning : Nat → Tree → Option α}
    (name : String) (put : α → σ → σ)
    (reads : ∀ room tree, ReadsTree (read room) (meaning room) tree)
    : ReadsField (Decode.field name read put) (Tree.field name meaning put) :=
  ⟨rfl, fun room tree before own rest blank spelled ends offset =>
    outcome_map (reads room tree before own rest blank spelled ends offset) fun _ _ => rfl⟩

section

variable {fields : List (Decode.RecordField σ)} {treeFields : List (Tree.Field σ)}
  (reads : List.Forall₂ ReadsField fields treeFields)
include reads

theorem stepReads_record (room : Nat) (tree : Tree)
    : StepReads (Decode.recordStep fields room) (Tree.recordStep treeFields room) tree := by
  intro name result colon own rest around spelled ends offset
  obtain ⟨after, blank, passes⟩ := Cursor.passed_colon around
  have found : Option.Rel ReadsField (fields.find? (·.name == name))
      (treeFields.find? (·.name == name)) := by
    induction reads with
    | nil => exact .none
    | @cons field treeField others treeOthers first _ ih =>
        simp only [List.find?_cons, first.1]
        split
        · exact .some first
        · exact ih
  unfold Decode.recordStep Tree.recordStep
  revert found
  generalize fields.find? (·.name == name) = field?
  generalize treeFields.find? (·.name == name) = treeField?
  rintro (⟨_, reads⟩ | _)
  · by_cases known : result.1.contains name
    · simp only [known, if_true]
      rfl
    · simp only [known, if_false, Bool.false_eq_true]
      refine outcome_passed (passes (own ++ rest) offset) fun offset => ?_
      rw [Option.map_map, Option.map_eq_bind]
      exact outcome_bind (reads room tree after own rest blank spelled ends offset) fun _ _ => rfl
  · refine outcome_passed (passes (own ++ rest) offset) fun offset => ?_
    exact outcome_passed (skipValue_append spelled blank ends) fun offset => rfl

theorem reads_recordItems (room : Nat) {items : List Tree} {first : Bool} {text : List UInt8}
    (spelled : Tree.SpellItems first items text) (result : σ)
    : Reads (Decode.recordItems room first result fields) (text ++ 93 :: rest)
        (Tree.recordItems room treeFields items result) rest := by
  induction reads generalizing items first text result with
  | nil =>
      intro offset
      cases items with
      | nil => exact outcome_passed (passed_closeList spelled) fun _ => rfl
      | cons item others =>
          obtain ⟨separator, own, behind, separates, spelledOwn, _, rfl⟩ := spelled
          obtain ⟨byte, bytes, rfl, visible, bracket, _⟩ := spelledOwn.cons
          simp only [List.append_assoc, List.cons_append]
          obtain ⟨fault, fails⟩ := closeList_fails offset separates visible bracket
          rw [Decode.recordItems, fails]
          rfl
  | cons reads _ ih =>
      intro offset
      cases items with
      | nil =>
          refine outcome_then (reads_noItem spelled offset) fun offset => ?_
          exact outcome_passed (passed_closeList blank_nil) fun _ => rfl
      | cons item items =>
          obtain ⟨separator, own, behind, separates, spelledOwn, spelledOthers, rfl⟩ := spelled
          obtain ⟨byte, bytes, rfl, visible, bracket, _⟩ := spelledOwn.cons
          have own := reads.2 room item [] _ (behind ++ 93 :: rest) blank_nil spelledOwn
            (ends_items spelledOthers)
          simp only [List.append_assoc, List.cons_append]
          refine outcome_then (reads_nextItem separates visible bracket offset) fun offset => ?_
          rw [Tree.recordItems, Option.map_bind]
          exact outcome_bind (own offset) fun put offset => ih spelledOthers (put result) offset

theorem reads_record {expected : String} (initial : σ) (room : Nat) (tree : Tree)
    : ReadsTree (Decode.record expected fields initial room) (Tree.record? treeFields initial room)
        tree := by
  refine readsTree_of_blind (fun c c' same => by simp only [Decode.record, same]) ?_
  intro own rest spelled ends offset
  cases tree with
  | array items =>
      obtain ⟨text, spelled, rfl⟩ := spelled
      have bytes : 91 :: text ++ [93] ++ rest = 91 :: (text ++ 93 :: rest) := by simp
      rw [bytes]
      cases room with
      | zero => rfl
      | succ room => exact reads_recordItems reads room spelled initial _
  | object members =>
      obtain ⟨text, spelled, rfl⟩ := spelled
      have bytes : 123 :: text ++ [125] ++ rest = 123 :: (text ++ 125 :: rest) := by simp
      rw [bytes]
      cases room with
      | zero => rfl
      | succ room =>
          have enough : text.length < (text ++ 125 :: rest).length := by simp
          have steps := fun member (_ : member ∈ members) => stepReads_record reads room member.2
          exact outcome_map (reads_members steps spelled ([], initial) enough _) fun _ _ => rfl
  | _ =>
      obtain ⟨byte, others, rfl, visible, begins⟩ := spelled.begins
      have list := begins.ne '[' (by simp [Tree.Begins])
      have map := begins.ne '\x7b' (by simp [Tree.Begins])
      refine Eq.trans (b := none) ?_ (by cases room <;> rfl)
      simp only [Decode.record, List.cons_append, Cursor.blanks_cons visible, Cursor.peek?_cons]
      split
      · rfl
      · rfl
      · rfl
      · exact absurd (Option.some.inj ‹_›) list
      · exact absurd (Option.some.inj ‹_›) map
      · rfl

end

/-- A text with nothing but blanks around a tree holds what the tree means. -/
theorem whole_eq {read : Decoder α} {meaning : Tree → Option α} {tree : Tree} {text : List UInt8}
    (reads : ReadsTree read meaning tree) (spelled : tree.SpellsWhole text)
    : (Decode.whole read text).toOption = meaning tree := by
  obtain ⟨before, own, after, blank, spelled, blankAfter, rfl⟩ := spelled
  have ends : Ends after := by
    have ends := ends_blank blankAfter ends_nil
    rwa [List.append_nil] at ends
  have read := reads before own after blank spelled ends 0
  unfold Decode.whole Cursor.start
  cases found : meaning tree with
  | none =>
      rw [found] at read
      obtain ⟨_, fails⟩ := outcome_eq_none.mp read
      rw [fails]
      rfl
  | some result =>
      rw [found] at read
      obtain ⟨offset, read⟩ := outcome_eq_some.mp read
      have behind : (⟨after, offset⟩ : Cursor).blanks.rest = [] := by
        have skipped : (⟨after ++ [], offset⟩ : Cursor).skipWhile _ = _ :=
          Cursor.skipWhile_append blankAfter rfl
        rw [List.append_nil] at skipped
        exact congrArg Cursor.rest skipped
      rw [read]
      simp [bind, Except.bind, behind, pure, Except.pure, Except.toOption]

/-- The value of a text is the value of its tree. -/
theorem toOption_ofText {tree : Tree} {text : List UInt8} (spelled : tree.SpellsWhole text)
    : (Json.ofText text).toOption = tree.value Decode.deepest :=
  whole_eq (reads_value Decode.deepest tree) spelled

end ComponentCrd.Json

namespace ComponentCrd.Document

open Json

theorem reads_resourceFields : List.Forall₂ ReadsField resourceFields resourceTreeFields :=
  .cons (reads_field _ _ fun _ => reads_bool) <|
  .cons (reads_field _ _ (reads_map reads_value)) <|
  .cons (reads_field _ _ (reads_list fun _ => reads_string)) .nil

theorem reads_documentFields : List.Forall₂ ReadsField documentFields documentTreeFields :=
  .cons (reads_field _ _ fun _ => reads_string) <|
  .cons (reads_field _ _ fun _ => reads_string) <|
  .cons (reads_field _ _ (reads_map (reads_record reads_resourceFields {}))) <|
  .cons (reads_field _ _ (reads_map reads_value)) .nil

/-- The document that a text holds is the document of its tree. -/
theorem toOption_ofText {tree : Tree} {text : List UInt8} (spelled : tree.SpellsWhole text)
    : (ofText text).toOption = ofTree? tree :=
  whole_eq (reads_record reads_documentFields {} Decode.deepest tree) spelled

end ComponentCrd.Document
