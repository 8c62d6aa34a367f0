import ComponentCrd.Package.Document
import ComponentCrd.Proofs.Json.WrittenValues
import ComponentCrd.Proofs.Outcomes

/-! What is read is regular: objects have their members in order, with none of their names twice,
and whole numbers fit into 64 bits. So are the values in a document that is read.
-/

namespace ComponentCrd

namespace Json.Decode

/-- Whatever the reader gives has the property. -/
def Gives {α : Type} (read : Decoder α) (holds : α → Prop) : Prop :=
  ∀ c found after, read c = .ok (found, after) → holds found

theorem gives_any {α : Type} (read : Decoder α) : Gives read fun _ => True :=
  fun _ _ _ _ => trivial

-----------------------------------------------------------------------------------------
-- Numbers
-----------------------------------------------------------------------------------------

theorem collect_le {significand : Nat} (small : significand ≤ largestSignificand)
    (digits : List Nat)
    : (collect significand digits).1 ≤ largestSignificand := by
  induction digits generalizing significand with
  | nil => exact small
  | cons digit rest ih =>
      rw [collect]
      split
      · exact small
      · next fits => exact ih (Nat.not_lt.mp fits)

theorem fits_wholeNumber (negative : Bool) {significand : Nat}
    (small : significand ≤ largestSignificand)
    : (wholeNumber negative significand).Fits := by
  unfold wholeNumber
  split
  · split
    · trivial
    · next fits =>
        have large : Nat.pow 2 63 ≤ largestSignificand := by decide
        exact ⟨by omega, by omega⟩
  · exact ⟨by omega, by omega⟩

theorem gives_number (negative : Bool) : Gives (number negative) Number.Fits := by
  intro c found after read
  obtain ⟨⟨whole, c⟩, _, read⟩ := Except.bind_eq_ok.mp read
  obtain ⟨⟨fraction, c⟩, _, read⟩ := Except.bind_eq_ok.mp read
  obtain ⟨⟨exponent?, c⟩, _, read⟩ := Except.bind_eq_ok.mp read
  dsimp only at read
  split at read
  · cases read
    exact fits_wholeNumber negative (collect_le (collect_le (Nat.zero_le _) whole) fraction)
  · split at read
    · cases read
      trivial
    · split at read
      · cases read
        trivial
      · cases read

-----------------------------------------------------------------------------------------
-- Lists and objects
-----------------------------------------------------------------------------------------

section

variable {α σ : Type} {holds : α → Prop}

/-- Every item has what the reader of an item gives, by induction over the bytes left. -/
theorem gives_items {item : Decoder α} (gives : Gives item holds) (first : Bool) (budget : Nat)
    : Gives (items item first budget) (∀ value ∈ ·, holds value) := by
  induction budget generalizing first with
  | zero => exact fun c found after read => by cases read
  | succ budget ih =>
      intro c found after read
      rw [items] at read
      obtain ⟨⟨more, c⟩, _, read⟩ := Except.bind_eq_ok.mp read
      dsimp only at read
      split at read
      · obtain ⟨⟨value, c⟩, own, read⟩ := Except.bind_eq_ok.mp read
        obtain ⟨⟨others, c⟩, behind, read⟩ := Except.bind_eq_ok.mp read
        cases read
        exact List.forall_mem_cons.mpr ⟨gives _ _ _ own, ih false _ _ _ behind⟩
      · obtain ⟨c, _, read⟩ := Except.bind_eq_ok.mp read
        cases read
        simp

/-- What every step keeps is true of the result, by induction over the bytes left. -/
theorem gives_members {step : String → σ → Decoder σ} {keeps : σ → Prop}
    (kept : ∀ name result, keeps result → Gives (step name result) keeps) (first : Bool)
    {result : σ} (start : keeps result) (budget : Nat)
    : Gives (members step first result budget) keeps := by
  induction budget generalizing first result with
  | zero => exact fun c found after read => by cases read
  | succ budget ih =>
      intro c found after read
      rw [members] at read
      obtain ⟨⟨more, c⟩, _, read⟩ := Except.bind_eq_ok.mp read
      dsimp only at read
      split at read
      · obtain ⟨⟨name, c⟩, _, read⟩ := Except.bind_eq_ok.mp read
        obtain ⟨⟨next, c⟩, own, read⟩ := Except.bind_eq_ok.mp read
        exact ih false (kept name result start _ _ _ own) _ _ _ read
      · cases read
        exact start

/-- Entries in increasing order whose values have the property. -/
def Ordered (holds : α → Prop) (entries : Entries α) : Prop :=
  entries.Increasing ∧ ∀ entry ∈ entries, holds entry.2

theorem ordered_nil : Ordered holds [] := ⟨.nil, by simp⟩

theorem gives_entry {value : Decoder α} (gives : Gives value holds) (name : String)
    {entries : Entries α} (ordered : Ordered holds entries)
    : Gives (entry value name entries) (Ordered holds) := by
  intro c found after read
  obtain ⟨c, _, read⟩ := Except.bind_eq_ok.mp read
  obtain ⟨⟨value, c⟩, own, read⟩ := Except.bind_eq_ok.mp read
  cases read
  refine ⟨ordered.1.put name value, fun entry member => ?_⟩
  rcases Entries.mem_of_mem_put member with rfl | old
  · exact gives _ _ _ own
  · exact ordered.2 entry old

end

/-- A reader that turns what another one gives. -/
theorem Gives.map {α β : Type} {holds : α → Prop} {later : β → Prop} {read : Decoder α}
    (gives : Gives read holds) {turn : α → β} (turned : ∀ found, holds found → later (turn found))
    {c : Cursor} {found : β} {after : Cursor}
    (reads : ((read c).map fun (value, c) => (turn value, c)) = .ok (found, after))
    : later found := by
  cases result : read c with
  | error fault =>
      rw [result] at reads
      cases reads
  | ok pair =>
      rw [result] at reads
      cases reads
      exact turned _ (gives _ _ _ result)

/-- Values are regular where those in their brackets are. -/
theorem gives_valueAround {nested? : Option (Decoder Json)}
    (gives : ∀ nested, nested? = some nested → Gives nested Json.Regular)
    : Gives (valueAround nested?) Json.Regular := by
  have word {c : Cursor} {letters : List Char} {value found : Json} {after : Cursor}
      (regular : value.Regular)
      (reads : (c.word letters).map (fun after => (value, after)) = .ok (found, after))
      : found.Regular := by
    cases result : c.word letters with
    | error fault =>
        rw [result] at reads
        cases reads
    | ok c =>
        rw [result] at reads
        cases reads
        exact regular
  intro c found after read
  unfold valueAround at read
  dsimp only at read
  split at read
  case h_1 => cases read
  case h_2 => exact word .null read
  case h_3 => exact word (.bool _) read
  case h_4 => exact word (.bool _) read
  case h_5 =>
    exact (gives_any stringTail).map (fun text _ => .string text) read
  case h_6 => exact (gives_number true).map (fun _ => .number) read
  case h_7 =>
    split at read
    · cases read
    · next nested =>
        exact (gives_items (gives nested rfl) _ _).map (fun _ => .array) read
  case h_8 =>
    split at read
    · cases read
    · next nested =>
        have step (name : String) (entries : Entries Json) (ordered : Ordered Json.Regular entries)
            : Gives (entry nested name entries) (Ordered Json.Regular) :=
          gives_entry (gives nested rfl) name ordered
        refine (gives_members step true ordered_nil _).map (fun _ ordered => ?_) read
        exact .object ordered.1 ordered.2
  case h_9 =>
    split at read
    · exact (gives_number false).map (fun _ => .number) read
    · cases read

/-- Values that are read are regular, by induction over the room. -/
theorem gives_value (room : Nat) : Gives (value room) Json.Regular := by
  induction room with
  | zero =>
      refine gives_valueAround fun nested none => ?_
      cases none
  | succ room ih =>
      refine gives_valueAround fun nested same => ?_
      obtain rfl := Option.some.inj same
      exact ih

-----------------------------------------------------------------------------------------
-- Maps and records
-----------------------------------------------------------------------------------------

section

variable {α σ : Type} {holds : α → Prop} {keeps : σ → Prop}

theorem gives_map {value : Nat → Decoder α} (gives : ∀ room, Gives (value room) holds) (room : Nat)
    : Gives (map value room) (Ordered holds) := by
  intro c found after read
  unfold map at read
  dsimp only at read
  split at read
  · split at read
    · cases read
    · next room =>
        refine gives_members (fun name entries => ?_) _ ordered_nil _ _ _ _ read
        exact gives_entry (gives room) name
  · cases read

/-- What is put into a record keeps the property. -/
def Keeping (keeps : σ → Prop) (put : σ → σ) : Prop := ∀ result, keeps result → keeps (put result)

/-- What the field puts into a record keeps the property. -/
def Keeps (keeps : σ → Prop) (field : RecordField σ) : Prop :=
  ∀ room, Gives (field.read room) (Keeping keeps)

theorem keeps_field {read : Nat → Decoder α} (gives : ∀ room, Gives (read room) holds)
    {name : String} {put : α → σ → σ}
    (kept : ∀ value, holds value → Keeping keeps (put value))
    : Keeps keeps (field name read put) :=
  fun room _ _ _ reads => (gives room).map kept reads

theorem gives_recordStep {fields : List (RecordField σ)}
    (kept : ∀ field ∈ fields, Keeps keeps field) (room : Nat) (name : String)
    (result : List String × σ) (before : keeps result.2)
    : Gives (recordStep fields room name result) (keeps ·.2) := by
  intro c found after read
  unfold recordStep at read
  split at read
  · next field search =>
      split at read
      · cases read
      · obtain ⟨c, _, read⟩ := Except.bind_eq_ok.mp read
        obtain ⟨⟨put, c⟩, own, read⟩ := Except.bind_eq_ok.mp read
        cases read
        exact kept field (List.mem_of_find?_eq_some search) _ _ _ _ own _ before
  · obtain ⟨c, _, read⟩ := Except.bind_eq_ok.mp read
    obtain ⟨c, _, read⟩ := Except.bind_eq_ok.mp read
    cases read
    exact before

theorem gives_recordItems {fields : List (RecordField σ)}
    (kept : ∀ field ∈ fields, Keeps keeps field) (room : Nat) (first : Bool) {result : σ}
    (before : keeps result)
    : Gives (recordItems room first result fields) keeps := by
  induction fields generalizing first result with
  | nil =>
      intro c found after read
      obtain ⟨c, _, read⟩ := Except.bind_eq_ok.mp read
      cases read
      exact before
  | cons field others ih =>
      intro c found after read
      rw [recordItems] at read
      obtain ⟨⟨more, c⟩, _, read⟩ := Except.bind_eq_ok.mp read
      dsimp only at read
      split at read
      · obtain ⟨⟨put, c⟩, own, read⟩ := Except.bind_eq_ok.mp read
        have next := kept field (.head _) _ _ _ _ own _ before
        exact ih (fun other member => kept other (.tail _ member)) false next _ _ _ read
      · obtain ⟨c, _, read⟩ := Except.bind_eq_ok.mp read
        cases read
        exact before

theorem gives_record {expected : String} {fields : List (RecordField σ)}
    (kept : ∀ field ∈ fields, Keeps keeps field) {initial : σ} (before : keeps initial) (room : Nat)
    : Gives (record expected fields initial room) keeps := by
  intro c found after read
  unfold record at read
  dsimp only at read
  split at read
  · cases read
  · cases read
  · cases read
  · exact gives_recordItems kept _ _ before _ _ _ read
  · next room _ =>
      have step (name : String) (result : List String × σ) (before : keeps result.2)
          : Gives (recordStep fields room name result) (keeps ·.2) :=
        gives_recordStep kept room name result before
      exact (gives_members step true (show keeps ([], initial).2 from before) _).map
        (fun _ => id) read
  · cases read

/-- A whole text gives what its reader gives. -/
theorem holds_of_whole {read : Decoder α} (gives : Gives read holds) {text : List UInt8} {found : α}
    (decodes : whole read text = .ok found)
    : holds found := by
  obtain ⟨⟨result, c⟩, own, decodes⟩ := Except.bind_eq_ok.mp decodes
  dsimp only at decodes
  split at decodes
  · cases decodes
    exact gives _ _ _ own
  · cases decodes

end

end Json.Decode

open Json.Decode

/-- The input properties increase, and their nodes are regular. -/
def Resource.Regular (resource : Resource) : Prop := Ordered Json.Regular resource.inputProperties

/-- The values in a document are regular. -/
structure Document.Regular (doc : Document) : Prop where
  resources : ∀ entry ∈ doc.resources, entry.2.Regular
  types : ∀ entry ∈ doc.types, entry.2.Regular

theorem Resource.gives_record (room : Nat)
    : Gives (record "struct Resource" Document.resourceFields {} room) Resource.Regular := by
  have empty : Resource.Regular {} := ordered_nil
  refine Json.Decode.gives_record ?_ empty room
  unfold Document.resourceFields
  simp only [List.forall_mem_cons, List.not_mem_nil, false_imp_iff, forall_true_iff, and_true]
  refine ⟨keeps_field (fun _ => gives_any _) ?_, keeps_field (gives_map gives_value) ?_,
    keeps_field (fun _ => gives_any _) ?_⟩
  · exact fun _ _ _ => id
  · exact fun _ ordered _ _ => ordered
  · exact fun _ _ _ => id

/-- A document that is read is regular. -/
theorem Document.regular_of_ofText {text : List UInt8} {doc : Document}
    (decodes : ofText text = .ok doc)
    : doc.Regular := by
  have empty : Document.Regular {} := ⟨by simp, by simp⟩
  refine holds_of_whole (gives_record ?_ empty _) decodes
  unfold documentFields
  simp only [List.forall_mem_cons, List.not_mem_nil, false_imp_iff, forall_true_iff, and_true]
  refine ⟨keeps_field (fun _ => gives_any _) ?_, keeps_field (fun _ => gives_any _) ?_,
    keeps_field (gives_map Resource.gives_record) ?_, keeps_field (gives_map gives_value) ?_⟩
  · exact fun _ _ _ before => ⟨before.resources, before.types⟩
  · exact fun _ _ _ before => ⟨before.resources, before.types⟩
  · exact fun _ ordered _ before => ⟨ordered.2, before.types⟩
  · exact fun _ ordered _ before => ⟨before.resources, ordered.2⟩

end ComponentCrd
