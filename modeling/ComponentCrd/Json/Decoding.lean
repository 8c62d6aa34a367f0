import ComponentCrd.Json.NumberReader
import ComponentCrd.Json.Skipping

/-! Reading a JSON text as values and as typed data. The room of a reader is the number of
brackets that may still be opened inside what it reads.
-/

namespace ComponentCrd.Json.Decode

/-- The number of brackets that may be open at the same time. -/
def deepest : Nat := 127

/-- The fault of a value that is not what was expected. A scalar is read to its end first, so that
its own faults win; a bracket is left alone.
-/
def mismatch (expected : String) (c : Cursor) : Fault :=
  let found (value : Except Fault (Found × Cursor)) : Fault :=
    match value with
    | .ok (found, after) => after.here (.wrongType found expected)
    | .error fault => fault
  let word (letters : List Char) (value : Found) : Fault :=
    found (((c.advance 1).word letters).map fun after => (value, after))
  match c.peek? with
  | some 'n' => word ['u', 'l', 'l'] .null
  | some 't' => word ['r', 'u', 'e'] (.bool true)
  | some 'f' => word ['a', 'l', 's', 'e'] (.bool false)
  | some '-' => found ((number true (c.advance 1)).map fun (value, after) => (.number value, after))
  | some '"' => found ((stringTail (c.advance 1)).map fun (text, after) => (.string text, after))
  | some '[' => c.here (.wrongType .sequence expected)
  | some '\x7b' => c.here (.wrongType .map expected)
  | some first =>
      if first.isDigit then
        found ((number false c).map fun (value, after) => (.number value, after))
      else
        c.ahead .expectedValue
  | none => c.here .endInValue

/-- A string. -/
def string : Decoder String := fun c =>
  let c := c.blanks
  if c.peek? = some '"' then stringTail (c.advance 1) else .error (mismatch "a string" c)

/-- A truth value. -/
def bool : Decoder Bool := fun c =>
  let c := c.blanks
  match c.peek? with
  | some 't' => ((c.advance 1).word ['r', 'u', 'e']).map fun after => (true, after)
  | some 'f' => ((c.advance 1).word ['a', 'l', 's', 'e']).map fun after => (false, after)
  | _ => .error (mismatch "a boolean" c)

/-! ### Lists -/

/-- Whether a list goes on, and the place of the next item or of the closing bracket. -/
def nextItem (first : Bool) : Decoder Bool := fun c =>
  let c := c.blanks
  match c.peek? with
  | none => .error (c.here .endInList)
  | some ']' => .ok (false, c)
  | some next =>
      if first then
        .ok (true, c)
      else if next = ',' then
        let c := (c.advance 1).blanks
        match c.peek? with
        | some ']' => .error (c.ahead .trailingComma)
        | some _ => .ok (true, c)
        | none => .error (c.here .endInValue)
      else
        .error (c.ahead .expectedListCommaOrEnd)

/-- Past the closing bracket of a list that has all its items. -/
def closeList (c : Cursor) : Except Fault Cursor :=
  let c := c.blanks
  match c.peek? with
  | some ']' => .ok (c.advance 1)
  | some ',' =>
      let c := (c.advance 1).blanks
      .error (c.ahead (if c.peek? = some ']' then .trailingComma else .trailingCharacters))
  | some _ => .error (c.ahead .trailingCharacters)
  | none => .error (c.here .endInList)

/-- The items up to the closing bracket, and the place after it. The budget is the number of bytes
left, and every item takes one.
-/
def items {α : Type} (item : Decoder α) (first : Bool) : (budget : Nat) → Decoder (List α)
  | 0, c => .error (c.here .endInList)
  | budget + 1, c => do
      let (more, c) ← nextItem first c
      if more then
        let (value, c) ← item c
        let (others, c) ← items item false budget c
        return (value :: others, c)
      else
        return ([], ← closeList c)

/-! ### Objects -/

/-- Whether an object goes on, and the place of the next name or of the closing bracket. -/
def nextMember (first : Bool) : Decoder Bool := fun c =>
  let c := c.blanks
  match c.peek? with
  | none => .error (c.here .endInObject)
  | some '\x7d' => .ok (false, c)
  | some next =>
      if first then
        if next = '"' then .ok (true, c) else .error (c.ahead .keyMustBeString)
      else if next = ',' then
        let c := (c.advance 1).blanks
        match c.peek? with
        | some '"' => .ok (true, c)
        | some '\x7d' => .error (c.ahead .trailingComma)
        | some _ => .error (c.ahead .keyMustBeString)
        | none => .error (c.here .endInValue)
      else
        .error (c.ahead .expectedObjectCommaOrEnd)

/-- The members up to the closing bracket, and the place after it: a step takes the result so far
and the name of a member and reads on after the name. The budget is the number of bytes left.
-/
def members {σ : Type} (step : String → σ → Decoder σ) (first : Bool) (result : σ) :
    (budget : Nat) → Decoder σ
  | 0, c => .error (c.here .endInObject)
  | budget + 1, c => do
      let (more, c) ← nextMember first c
      if more then
        let (name, c) ← stringTail (c.advance 1)
        let (result, c) ← step name result c
        members step false result budget c
      else
        return (result, c.advance 1)

/-- A step that adds the value of a member to the entries, in place of an earlier one. -/
def entry {α : Type} (value : Decoder α) (name : String) (entries : Entries α) :
    Decoder (Entries α) := fun c => do
  let (value, c) ← value (← c.colon)
  return (entries.put name value, c)

/-! ### Values -/

/-- A value whose brackets are read by the given readers of their contents, if any may be opened.
-/
def valueAround (nested? : Option (Decoder Json)) : Decoder Json := fun c =>
  let c := c.blanks
  let after := c.advance 1
  let word (letters : List Char) (value : Json) : Except Fault (Json × Cursor) :=
    (after.word letters).map fun after => (value, after)
  match c.peek? with
  | none => .error (c.here .endInValue)
  | some 'n' => word ['u', 'l', 'l'] .null
  | some 't' => word ['r', 'u', 'e'] (.bool true)
  | some 'f' => word ['a', 'l', 's', 'e'] (.bool false)
  | some '"' => (stringTail after).map fun (text, after) => (.string text, after)
  | some '-' => (number true after).map fun (value, after) => (.number value, after)
  | some '[' =>
      match nested? with
      | none => .error (c.ahead .tooDeep)
      | some nested =>
          (items nested true after.rest.length after).map fun (found, after) =>
            (.array found, after)
  | some '\x7b' =>
      match nested? with
      | none => .error (c.ahead .tooDeep)
      | some nested =>
          (members (entry nested) true [] after.rest.length after).map fun (found, after) =>
            (.object found, after)
  | some first =>
      if first.isDigit then
        (number false c).map fun (value, after) => (.number value, after)
      else
        .error (c.ahead .expectedValue)

/-- A value with at most `room` open brackets at a time. -/
def value : (room : Nat) → Decoder Json
  | 0 => valueAround none
  | room + 1 => valueAround (some (value room))

/-! ### Typed lists, maps and records -/

/-- A list whose items are read with the room left inside it. -/
def list {α : Type} (item : Nat → Decoder α) (room : Nat) : Decoder (List α) := fun c =>
  let c := c.blanks
  if c.peek? = some '[' then
    match room with
    | 0 => .error (c.ahead .tooDeep)
    | room + 1 => items (item room) true (c.advance 1).rest.length (c.advance 1)
  else
    .error (mismatch "a sequence" c)

/-- A map whose values are read with the room left inside it. -/
def map {α : Type} (value : Nat → Decoder α) (room : Nat) : Decoder (Entries α) := fun c =>
  let c := c.blanks
  if c.peek? = some '\x7b' then
    match room with
    | 0 => .error (c.ahead .tooDeep)
    | room + 1 => members (entry (value room)) true [] (c.advance 1).rest.length (c.advance 1)
  else
    .error (mismatch "a map" c)

/-- A field of a record: its name and a reader that puts its value into the record. -/
structure RecordField (σ : Type) where
  name : String
  read : (room : Nat) → Decoder (σ → σ)

/-- The field of a name and a reader, with the way to put the value into a record. -/
def field {σ α : Type} (name : String) (read : Nat → Decoder α) (put : α → σ → σ) :
    RecordField σ :=
  ⟨name, fun room c => (read room c).map fun (value, c) => (put value, c)⟩

/-- The fault of a field that stands twice: it is reported after the blanks that follow the second
name, and after a closing bracket if that comes next.
-/
def duplicate (name : String) (c : Cursor) : Fault :=
  let c := c.blanks
  (if c.peek? = some '\x7d' then c.advance 1 else c).here (.duplicateField name)

/-- A step of reading a record from an object: a known field may stand once, an unknown one is
skipped.
-/
def recordStep {σ : Type} (fields : List (RecordField σ)) (room : Nat) (name : String)
    (result : List String × σ) : Decoder (List String × σ) := fun c =>
  match fields.find? (·.name == name) with
  | some field =>
      if result.1.contains name then
        .error (duplicate name c)
      else do
        let (put, c) ← field.read room (← c.colon)
        return ((name :: result.1, put result.2), c)
  | none => do
      return (result, ← skipValue (← c.colon))

/-- The fields of a record from a list, in their order; a shorter list leaves the others as they
are, a longer one is refused.
-/
def recordItems {σ : Type} (room : Nat) (first : Bool) (result : σ) :
    List (RecordField σ) → Decoder σ
  | [], c => do return (result, ← closeList c)
  | field :: others, c => do
      let (more, c) ← nextItem first c
      if more then
        let (put, c) ← field.read room c
        recordItems room false (put result) others c
      else
        return (result, ← closeList c)

/-- A record, from an object or from a list of its fields. -/
def record {σ : Type} (expected : String) (fields : List (RecordField σ)) (initial : σ)
    (room : Nat) : Decoder σ := fun c =>
  let c := c.blanks
  match c.peek?, room with
  | none, _ => .error (c.here .endInValue)
  | some '[', 0 => .error (c.ahead .tooDeep)
  | some '\x7b', 0 => .error (c.ahead .tooDeep)
  | some '[', room + 1 => recordItems room true initial fields (c.advance 1)
  | some '\x7b', room + 1 =>
      (members (recordStep fields room) true ([], initial) (c.advance 1).rest.length
        (c.advance 1)).map fun (result, c) => (result.2, c)
  | _, _ => .error (mismatch expected c)

/-- What a text holds, with nothing but blanks behind it. -/
def whole {α : Type} (read : Decoder α) (text : List UInt8) : Except Fault α := do
  let (result, c) ← read (.start text)
  let c := c.blanks
  if c.rest.isEmpty then return result else throw (c.ahead .trailingCharacters)

end ComponentCrd.Json.Decode

namespace ComponentCrd

/-- The value of a JSON text. -/
def Json.ofText (text : List UInt8) : Except Json.Fault Json :=
  Json.Decode.whole (Json.Decode.value Json.Decode.deepest) text

end ComponentCrd
