import ComponentCrd.Json.Decoding
import ComponentCrd.Proofs.Outcomes
import ComponentCrd.Proofs.Text.Unbroken

/-! Every fault of a JSON text is worded on one line. Most wordings are fixed; the others name what
was found, where a string is quoted, and what a reader was told to expect or a field that it knows,
which are fixed by the reader.
-/

namespace ComponentCrd.Json

-----------------------------------------------------------------------------------------
-- Problems
-----------------------------------------------------------------------------------------

/-- The wording of the problem is fixed. -/
def Problem.plain : Problem → Bool
  | .wrongType _ _ => false
  | .duplicateField _ => false
  | _ => true

theorem unbroken_of_plain {problem : Problem} (plain : problem.plain)
    : Unbroken problem.message := by
  cases problem with
  | wrongType _ _ | duplicateField _ => cases plain
  | _ => decide +kernel

theorem unbroken_describe (found : Found) : Unbroken found.describe := by
  cases found with
  | null | sequence | map => decide
  | bool value => cases value <;> decide
  | string text => exact unbroken_append.mpr ⟨by decide, unbroken_quoted text⟩
  | number value =>
      have chars := not_mem_numberChars value
      cases value with
      | integer value =>
          exact unbroken_append.mpr ⟨unbroken_append.mpr ⟨by decide, chars⟩, by decide⟩
      | float value =>
          have chars := unbroken_ofList.mpr chars
          exact unbroken_append.mpr ⟨unbroken_append.mpr ⟨by decide, chars⟩, by decide⟩

/-- If reading fails, the fault is worded on one line. -/
def Worded {α : Type} (result : Except Fault α) : Prop :=
  ∀ fault, result = .error fault → Unbroken fault.problem.message

section

variable {α β : Type}

theorem worded_ok {result : α} : Worded (.ok result) := by
  intro fault fails
  cases fails

theorem worded_error {fault : Fault} (unbroken : Unbroken fault.problem.message)
    : Worded (.error fault : Except Fault α) := by
  rintro _ ⟨⟩
  exact unbroken

/-- A fault with a fixed wording. -/
theorem worded_plain {fault : Fault} (plain : fault.problem.plain)
    : Worded (.error fault : Except Fault α) :=
  worded_error (unbroken_of_plain plain)

/-- A fault with a fixed wording, and whatever would have followed. -/
theorem worded_throw {fault : Fault} {next : β → Except Fault α} (plain : fault.problem.plain)
    : Worded ((throw fault : Except Fault β) >>= next) :=
  worded_plain plain

theorem Worded.bind {result : Except Fault α} {next : α → Except Fault β} (worded : Worded result)
    (then' : ∀ found, Worded (next found))
    : Worded (result >>= next) := by
  intro fault fails
  rcases Except.bind_eq_error.mp fails with first | ⟨found, _, second⟩
  · exact worded fault first
  · exact then' found fault second

theorem Worded.map {result : Except Fault α} {turn : α → β} (worded : Worded result)
    : Worded (result.map turn) := by
  intro fault fails
  cases result with
  | error other => exact worded fault (by simpa [Except.map] using fails)
  | ok found => cases fails

end

-----------------------------------------------------------------------------------------
-- Words, strings and numbers
-----------------------------------------------------------------------------------------

theorem worded_word (c : Cursor) (letters : List Char) : Worded (c.word letters) := by
  induction letters generalizing c with
  | nil => exact worded_ok
  | cons expected others ih =>
      rw [Cursor.word]
      split
      · exact worded_plain rfl
      · split
        · exact ih _
        · exact worded_plain rfl

theorem worded_colon (c : Cursor) : Worded c.colon := by
  unfold Cursor.colon
  dsimp only
  split
  · exact worded_ok
  · exact worded_plain rfl
  · exact worded_plain rfl

namespace Decode

theorem worded_fourHexDigits (c : Cursor) : Worded (fourHexDigits c) := by
  unfold fourHexDigits
  split
  · split
    · exact worded_ok
    · exact worded_plain rfl
  · exact worded_plain rfl

theorem worded_secondHalf (expected : Char) (c : Cursor) : Worded (secondHalf expected c) := by
  unfold secondHalf
  split
  · exact worded_plain rfl
  · split
    · exact worded_ok
    · exact worded_plain rfl

theorem worded_codeEscape (c : Cursor) : Worded (codeEscape c) := by
  refine (worded_fourHexDigits c).bind fun first => ?_
  dsimp only
  split
  · exact worded_throw rfl
  · split
    · exact worded_ok
    · refine (worded_secondHalf _ _).bind fun _ => (worded_secondHalf _ _).bind fun _ => ?_
      refine (worded_fourHexDigits _).bind fun second => ?_
      split
      · exact worded_throw rfl
      · exact worded_ok

theorem worded_escape (c : Cursor) : Worded (escape c) := by
  unfold escape
  split
  case h_10 => exact worded_codeEscape _
  all_goals first | exact worded_ok | exact worded_plain rfl

theorem worded_stringBytes (read : List UInt8) (budget : Nat) (c : Cursor)
    : Worded (stringBytes read budget c) := by
  induction budget generalizing read c with
  | zero => exact worded_plain rfl
  | succ budget ih =>
      rw [stringBytes]
      split
      · exact worded_plain rfl
      · dsimp only
        split
        · exact worded_ok
        · split
          · split
            · exact ih _ _
            · next fault fails => exact worded_error (worded_escape _ fault fails)
          · split
            · exact worded_plain rfl
            · exact ih _ _

theorem worded_stringTail (c : Cursor) : Worded (stringTail c) := by
  refine (worded_stringBytes _ _ _).bind fun found => ?_
  dsimp only
  split
  · exact worded_ok
  · exact worded_plain rfl

theorem worded_wholeDigits (c : Cursor) : Worded (wholeDigits c) := by
  unfold wholeDigits
  repeat' split
  all_goals first | exact worded_ok | exact worded_plain rfl

theorem worded_fractionDigits (c : Cursor) : Worded (fractionDigits c) := by
  unfold fractionDigits
  repeat' split
  all_goals first | exact worded_ok | exact worded_plain rfl

theorem worded_exponentPart (zero : Bool) (c : Cursor) : Worded (exponentPart zero c) := by
  unfold exponentPart
  split
  · dsimp only
    repeat' split
    all_goals first | exact worded_ok | exact worded_plain rfl
  · exact worded_ok

theorem worded_number (negative : Bool) (c : Cursor) : Worded (number negative c) := by
  refine (worded_wholeDigits c).bind fun whole => (worded_fractionDigits _).bind fun fraction => ?_
  refine (worded_exponentPart _ _).bind fun exponent => ?_
  dsimp only
  split
  · exact worded_ok
  · split
    · exact worded_ok
    · split
      · exact worded_ok
      · exact worded_plain rfl

-----------------------------------------------------------------------------------------
-- Values that are passed over
-----------------------------------------------------------------------------------------

theorem worded_skipNumber (c : Cursor) : Worded (skipNumber c) := by
  have whole (c : Cursor) : Worded (skipWhole c) := by
    unfold skipWhole
    repeat' split
    all_goals first | exact worded_ok | exact worded_plain rfl
  have fraction (c : Cursor) : Worded (skipFraction c) := by
    unfold skipFraction
    split
    · dsimp only
      split
      · exact worded_plain rfl
      · exact worded_ok
    · exact worded_ok
  have exponent (c : Cursor) : Worded (skipExponent c) := by
    unfold skipExponent
    split
    · dsimp only
      repeat' split
      all_goals first | exact worded_ok | exact worded_plain rfl
    · exact worded_ok
  exact (whole c).bind fun _ => (fraction _).bind fun _ => exponent _

theorem worded_skipEscape (c : Cursor) : Worded (skipEscape c) := by
  unfold skipEscape
  split
  · exact worded_plain rfl
  · split
    · exact (worded_fourHexDigits _).map
    · split
      · exact worded_ok
      · exact worded_plain rfl

theorem worded_skipString (budget : Nat) (c : Cursor) : Worded (skipString budget c) := by
  induction budget generalizing c with
  | zero => exact worded_plain rfl
  | succ budget ih =>
      rw [skipString]
      split
      · exact worded_plain rfl
      · dsimp only
        split
        · exact worded_ok
        · split
          · split
            · exact ih _
            · next fault fails => exact worded_error (worded_skipEscape _ fault fails)
          · split
            · exact worded_plain rfl
            · exact ih _

theorem worded_skipName (frame : Frame) (c : Cursor) : Worded (frame.skipName c) := by
  cases frame with
  | list => exact worded_ok
  | object =>
      unfold Frame.skipName
      dsimp only
      split
      · exact (worded_skipString _ _).bind fun _ => worded_colon _
      · exact worded_plain rfl
      · exact worded_plain rfl

/-- The faults of brackets are those of their frame. -/
theorem plain_frame (frame : Frame) : frame.endProblem.plain ∧ frame.separatorProblem.plain := by
  cases frame <;> exact ⟨rfl, rfl⟩

theorem worded_skipRest (stage : Stage) (frames : List Frame) (budget : Nat) (c : Cursor)
    : Worded (skipRest stage frames budget c) := by
  induction budget generalizing stage frames c with
  | zero => exact worded_plain rfl
  | succ budget ih =>
      unfold skipRest
      split
      · dsimp only
        split
        · exact worded_plain rfl
        · exact ih _ _ _
        · exact ih _ _ _
        · have scalar (c : Cursor) (first : Char)
              : Worded
                  (if first = 'n' then (c.advance 1).word ['u', 'l', 'l']
                    else if first = 't' then (c.advance 1).word ['r', 'u', 'e']
                    else if first = 'f' then (c.advance 1).word ['a', 'l', 's', 'e']
                    else if first = '"' then skipString (c.advance 1).rest.length (c.advance 1)
                    else if first = '-' then skipNumber (c.advance 1)
                    else if first.isDigit then skipNumber c
                    else .error (c.ahead .expectedValue)) := by
            repeat' split
            all_goals first
              | exact worded_word _ _
              | exact worded_skipString _ _
              | exact worded_skipNumber _
              | exact worded_plain rfl
          split
          · exact ih _ _ _
          · next fault fails => exact worded_error (scalar _ _ fault fails)
      · exact worded_ok
      · next frame outer _ =>
          dsimp only
          split
          · exact worded_plain (plain_frame frame).1
          · split
            · exact ih _ _ _
            · split
              · exact worded_plain (plain_frame frame).2
              · split
                · exact ih _ _ _
                · next fault fails => exact worded_error (worded_skipName _ _ fault fails)

theorem worded_skipValue (c : Cursor) : Worded (skipValue c) := worded_skipRest _ _ _ _

-----------------------------------------------------------------------------------------
-- Values and typed data
-----------------------------------------------------------------------------------------

/-- A value of another kind than the expected one, which the reader names. -/
theorem unbroken_mismatch {expected : String} (fixed : Unbroken expected) (c : Cursor)
    : Unbroken (mismatch expected c).problem.message := by
  have wrong (found : Found) : Unbroken (Problem.wrongType found expected).message := by
    refine unbroken_append.mpr ⟨unbroken_append.mpr ⟨unbroken_append.mpr ?_, by decide⟩, fixed⟩
    exact ⟨by decide, unbroken_describe found⟩
  unfold mismatch
  dsimp only
  -- What is read is named, or the fault that reading it meets is reported instead.
  split
  case h_6 | h_7 => exact wrong _
  case h_9 => exact unbroken_of_plain rfl
  case h_8 =>
    split
    · split
      · exact wrong _
      · next fails => exact (worded_number _ _).map _ fails
    · exact unbroken_of_plain rfl
  case h_4 =>
    split
    · exact wrong _
    · next fails => exact (worded_number _ _).map _ fails
  case h_5 =>
    split
    · exact wrong _
    · next fails => exact (worded_stringTail _).map _ fails
  all_goals
    split
    · exact wrong _
    · next fails => exact (worded_word _ _).map _ fails

/-- Whatever the reader fails with is worded on one line. -/
def WordedReader {α : Type} (read : Decoder α) : Prop := ∀ c, Worded (read c)

theorem worded_string : WordedReader string := by
  intro c
  unfold string
  dsimp only
  split
  · exact worded_stringTail _
  · exact worded_error (unbroken_mismatch (by decide) _)

theorem worded_bool : WordedReader bool := by
  intro c
  unfold bool
  dsimp only
  split
  · exact (worded_word _ _).map
  · exact (worded_word _ _).map
  · exact worded_error (unbroken_mismatch (by decide) _)

theorem worded_nextItem (first : Bool) : WordedReader (nextItem first) := by
  intro c
  unfold nextItem
  dsimp only
  repeat' split
  all_goals first | exact worded_ok | exact worded_plain rfl

theorem worded_closeList (c : Cursor) : Worded (closeList c) := by
  unfold closeList
  dsimp only
  split
  · exact worded_ok
  · refine worded_plain ?_
    split <;> rfl
  · exact worded_plain rfl
  · exact worded_plain rfl

theorem worded_nextMember (first : Bool) : WordedReader (nextMember first) := by
  intro c
  unfold nextMember
  dsimp only
  repeat' split
  all_goals first | exact worded_ok | exact worded_plain rfl

section

variable {α σ : Type}

/-- Items are read with the wording of the reader of an item, by induction over the bytes left. -/
theorem worded_items {item : Decoder α} (worded : WordedReader item) (first : Bool) (budget : Nat)
    : WordedReader (items item first budget) := by
  induction budget generalizing first with
  | zero => exact fun c => worded_plain rfl
  | succ budget ih =>
      intro c
      rw [items]
      refine (worded_nextItem first c).bind fun next => ?_
      dsimp only
      split
      · refine (worded _).bind fun value => (ih false _).bind fun others => ?_
        exact worded_ok
      · refine Worded.bind (worded_closeList _) fun after => ?_
        exact worded_ok

theorem worded_members {step : String → σ → Decoder σ}
    (worded : ∀ name result, WordedReader (step name result)) (first : Bool) (result : σ)
    (budget : Nat)
    : WordedReader (members step first result budget) := by
  induction budget generalizing first result with
  | zero => exact fun c => worded_plain rfl
  | succ budget ih =>
      intro c
      rw [members]
      refine (worded_nextMember first c).bind fun next => ?_
      dsimp only
      split
      · refine (worded_stringTail _).bind fun name => (worded _ _ _).bind fun more => ?_
        exact ih false _ _
      · exact worded_ok

theorem worded_entry {value : Decoder α} (worded : WordedReader value) (name : String)
    (entries : Entries α)
    : WordedReader (entry value name entries) := by
  intro c
  refine (worded_colon c).bind fun after => (worded after).bind fun found => ?_
  exact worded_ok

theorem worded_valueAround {nested? : Option (Decoder Json)}
    (worded : ∀ nested, nested? = some nested → WordedReader nested)
    : WordedReader (valueAround nested?) := by
  intro c
  unfold valueAround
  dsimp only
  split
  case h_1 => exact worded_plain rfl
  case h_5 => exact (worded_stringTail _).map
  case h_6 => exact (worded_number _ _).map
  case h_7 =>
    split
    · exact worded_plain rfl
    · next nested => exact (worded_items (worded nested rfl) _ _ _).map
  case h_8 =>
    split
    · exact worded_plain rfl
    · next nested =>
        exact (worded_members (worded_entry (worded nested rfl)) _ _ _ _).map
  case h_9 =>
    split
    · exact (worded_number _ _).map
    · exact worded_plain rfl
  all_goals exact (worded_word _ _).map

theorem worded_value (room : Nat) : WordedReader (value room) := by
  induction room with
  | zero =>
      refine worded_valueAround fun nested none => ?_
      cases none
  | succ room ih =>
      refine worded_valueAround fun nested same => ?_
      obtain rfl := Option.some.inj same
      exact ih

theorem worded_list {item : Nat → Decoder α} (worded : ∀ room, WordedReader (item room))
    (room : Nat)
    : WordedReader (list item room) := by
  intro c
  unfold list
  dsimp only
  split
  · split
    · exact worded_plain rfl
    · exact worded_items (worded _) _ _ _
  · exact worded_error (unbroken_mismatch (by decide) _)

theorem worded_map {value : Nat → Decoder α} (worded : ∀ room, WordedReader (value room))
    (room : Nat)
    : WordedReader (map value room) := by
  intro c
  unfold map
  dsimp only
  split
  · split
    · exact worded_plain rfl
    · exact worded_members (worded_entry (worded _)) _ _ _ _
  · exact worded_error (unbroken_mismatch (by decide) _)

/-- A field that the reader of a record knows: its name has a fixed wording. -/
structure WordedField (field : RecordField σ) : Prop where
  name : Unbroken field.name
  read : ∀ room, WordedReader (field.read room)

theorem worded_field {name : String} {read : Nat → Decoder α} {put : α → σ → σ}
    (fixed : Unbroken name) (worded : ∀ room, WordedReader (read room))
    : WordedField (field name read put) :=
  ⟨fixed, fun room c => (worded room c).map⟩

theorem worded_recordStep {fields : List (RecordField σ)}
    (worded : ∀ field ∈ fields, WordedField field) (room : Nat) (name : String)
    (result : List String × σ)
    : WordedReader (recordStep fields room name result) := by
  intro c
  unfold recordStep
  split
  · next field found =>
      have member := worded field (List.mem_of_find?_eq_some found)
      obtain rfl : field.name = name := by simpa using List.find?_some found
      split
      · refine worded_error (unbroken_append.mpr ⟨unbroken_append.mpr ⟨?_, member.name⟩, ?_⟩)
        · decide
        · decide
      · refine (worded_colon c).bind fun after => (member.read room after).bind fun found => ?_
        exact worded_ok
  · refine (worded_colon c).bind fun after => (worded_skipValue after).bind fun after => ?_
    exact worded_ok

theorem worded_recordItems {fields : List (RecordField σ)}
    (worded : ∀ field ∈ fields, WordedField field) (room : Nat) (first : Bool) (result : σ)
    : WordedReader (recordItems room first result fields) := by
  induction fields generalizing first result with
  | nil => exact fun c => (worded_closeList c).bind fun after => worded_ok
  | cons field others ih =>
      intro c
      rw [recordItems]
      refine (worded_nextItem first c).bind fun next => ?_
      dsimp only
      split
      · refine ((worded field (.head _)).read room _).bind fun found => ?_
        exact ih (fun other member => worded other (.tail _ member)) false _ _
      · exact (worded_closeList _).bind fun after => worded_ok

theorem worded_record {expected : String} (fixed : Unbroken expected)
    {fields : List (RecordField σ)} (worded : ∀ field ∈ fields, WordedField field) (initial : σ)
    (room : Nat)
    : WordedReader (record expected fields initial room) := by
  intro c
  unfold record
  dsimp only
  split
  · exact worded_plain rfl
  · exact worded_plain rfl
  · exact worded_plain rfl
  · exact worded_recordItems worded _ _ _ _
  · exact (worded_members (worded_recordStep worded _) _ _ _ _).map
  · exact worded_error (unbroken_mismatch fixed _)

/-- A whole text is read with the wording of its reader. -/
theorem worded_whole {read : Decoder α} (worded : WordedReader read) (text : List UInt8)
    : Worded (whole read text) := by
  refine (worded _).bind fun found => ?_
  dsimp only
  split
  · exact worded_ok
  · exact worded_plain rfl

end

end Decode

/-- The place of a fault is given in numbers. -/
theorem unbroken_message {fault : Fault} (problem : Unbroken fault.problem.message)
    (text : List UInt8)
    : Unbroken (fault.message text) := by
  unfold Fault.message
  simp only [unbroken_append]
  exact ⟨⟨⟨⟨problem, by decide⟩, unbroken_toString _⟩, by decide⟩, unbroken_toString _⟩

end ComponentCrd.Json
