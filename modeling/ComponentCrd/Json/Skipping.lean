import ComponentCrd.Json.StringReader

/-! Passing over a JSON value that nobody asked for. Only its form is checked: numbers may be out
of range, surrogates alone and bytes no UTF-8, and brackets may nest to any depth.
-/

namespace ComponentCrd.Json.Decode

/-- Past the digits of an exponent whose letter has been read, if there is one. -/
def skipExponent (c : Cursor) : Except Fault Cursor :=
  if c.peek? = some 'e' ∨ c.peek? = some 'E' then
    let c := c.advance 1
    let c := if c.peek? = some '+' ∨ c.peek? = some '-' then c.advance 1 else c
    match c.next? with
    | none => .error (c.here .invalidNumber)
    | some (first, after) =>
        if first.isDigit then .ok after.digits.2 else .error (after.here .invalidNumber)
  else
    .ok c

/-- Past the point of a number and the digits after it, if there is one. -/
def skipFraction (c : Cursor) : Except Fault Cursor :=
  if c.peek? = some '.' then
    let (found, after) := (c.advance 1).digits
    if found.isEmpty then .error (after.ahead .invalidNumber) else .ok after
  else
    .ok c

/-- Past the digits before the point. -/
def skipWhole (c : Cursor) : Except Fault Cursor :=
  match c.next? with
  | none => .error (c.here .invalidNumber)
  | some (first, after) =>
      if first = '0' then
        if after.digits.1.isEmpty then .ok after else .error (after.ahead .invalidNumber)
      else if first.isDigit then
        .ok after.digits.2
      else
        .error (after.here .invalidNumber)

/-- Past a number whose sign has been read. -/
def skipNumber (c : Cursor) : Except Fault Cursor := do
  skipExponent (← skipFraction (← skipWhole c))

/-- Past an escape whose backslash has been read. -/
def skipEscape (c : Cursor) : Except Fault Cursor :=
  match c.next? with
  | none => .error (c.here .endInString)
  | some (letter, after) =>
      if letter = 'u' then
        (fourHexDigits after).map Prod.snd
      else if ['"', '\\', '/', 'b', 'f', 'n', 'r', 't'].contains letter then
        .ok after
      else
        .error (after.here .invalidEscape)

/-- Past a string after its opening quote. The budget is the number of bytes left. -/
def skipString : (budget : Nat) → Cursor → Except Fault Cursor
  | 0, c => .error (c.here .endInString)
  | budget + 1, c =>
      match c.rest with
      | [] => .error (c.here .endInString)
      | byte :: _ =>
          let after := c.advance 1
          if byte = 34 then
            .ok after
          else if byte = 92 then
            match skipEscape after with
            | .ok after => skipString budget after
            | .error fault => .error fault
          else if byte < 32 then
            .error (c.here .controlCharacter)
          else
            skipString budget after

/-- An open bracket around the value that is being skipped. -/
inductive Frame where
  | list
  | object
deriving DecidableEq, Repr

/-- The bracket that closes a frame. -/
def Frame.close : Frame → Char
  | .list => ']'
  | .object => '\x7d'

/-- The problem of a text that ends inside a frame. -/
def Frame.endProblem : Frame → Problem
  | .list => .endInList
  | .object => .endInObject

/-- The problem of something else than a comma or the closing bracket after an item. -/
def Frame.separatorProblem : Frame → Problem
  | .list => .expectedListCommaOrEnd
  | .object => .expectedObjectCommaOrEnd

/-- Past the name and the colon of the next member, in an object. -/
def Frame.skipName (frame : Frame) (c : Cursor) : Except Fault Cursor :=
  match frame with
  | .list => .ok c
  | .object =>
      let c := c.blanks
      match c.peek? with
      | some '"' => do (← skipString (c.advance 1).rest.length (c.advance 1)).colon
      | some _ => .error (c.ahead .keyMustBeString)
      | none => .error (c.here .endInObject)

/-- What comes next while a value is skipped: a value, or, inside the innermost frame, a closing
bracket or the next item. An item needs a comma before it unless the frame is fresh.
-/
inductive Stage where
  | value
  | afterItem
  | fresh
deriving DecidableEq, Repr

/-- Past the rest of a value with the given frames open. Every two steps read at least one byte.
-/
def skipRest (stage : Stage) (frames : List Frame) : (budget : Nat) → Cursor → Except Fault Cursor
  | 0, c => .error (c.here .endInValue)
  | budget + 1, c =>
      match stage, frames with
      | .value, _ =>
          let c := c.blanks
          match c.peek? with
          | none => .error (c.here .endInValue)
          | some '[' => skipRest .fresh (.list :: frames) budget (c.advance 1)
          | some '\x7b' => skipRest .fresh (.object :: frames) budget (c.advance 1)
          | some first =>
              let scalar :=
                if first = 'n' then (c.advance 1).word ['u', 'l', 'l']
                else if first = 't' then (c.advance 1).word ['r', 'u', 'e']
                else if first = 'f' then (c.advance 1).word ['a', 'l', 's', 'e']
                else if first = '"' then skipString (c.advance 1).rest.length (c.advance 1)
                else if first = '-' then skipNumber (c.advance 1)
                else if first.isDigit then skipNumber c
                else .error (c.ahead .expectedValue)
              match scalar with
              | .ok after => skipRest .afterItem frames budget after
              | .error fault => .error fault
      | _, [] => .ok c
      | stage, frame :: outer =>
          let c := c.blanks
          match c.peek? with
          | none => .error (c.here frame.endProblem)
          | some next =>
              if next = frame.close then
                skipRest .afterItem outer budget (c.advance 1)
              else if stage = .afterItem ∧ next ≠ ',' then
                .error (c.ahead frame.separatorProblem)
              else
                match frame.skipName (if stage = .afterItem then c.advance 1 else c) with
                | .ok after => skipRest .value frames budget after
                | .error fault => .error fault

/-- Past a value. -/
def skipValue (c : Cursor) : Except Fault Cursor :=
  skipRest .value [] (2 * c.rest.length + 2) c

end ComponentCrd.Json.Decode
