import ComponentCrd.Json.Cursor
import ComponentCrd.Text.Basic

/-! Strings in a JSON text, after the opening quote. -/

namespace ComponentCrd.Json.Decode

/-- The number of four hexadecimal digits. All four bytes are taken before they are judged. -/
def fourHexDigits : Decoder Nat := fun c =>
  let after := c.advance 4
  match c.rest with
  | w :: x :: y :: z :: _ =>
      match [w, x, y, z].mapM fun byte => Text.digitValue? 16 (Char.ofNat byte.toNat) with
      | some digits => .ok (Text.ofDigits 16 digits, after)
      | none => .error (after.here .invalidEscape)
  | _ => .error (after.here .endInString)

/-- Past one expected character inside an escape. -/
def secondHalf (expected : Char) (c : Cursor) : Except Fault Cursor :=
  match c.next? with
  | none => .error (c.here .endInString)
  | some (found, after) =>
      if found = expected then .ok after else .error (after.here .unfinishedSurrogatePair)

/-- The character of an escape by code, whose letter has been read. A code of the first half of a
surrogate pair wants the second half right behind it.
-/
def codeEscape : Decoder Char := fun c => do
  let (first, c) ← fourHexDigits c
  if 0xDC00 ≤ first ∧ first ≤ 0xDFFF then
    throw (c.here .loneSurrogate)
  if first < 0xD800 ∨ 0xDBFF < first then
    return (Char.ofNat first, c)
  let c ← secondHalf '\\' c
  let c ← secondHalf 'u' c
  let (second, c) ← fourHexDigits c
  if second < 0xDC00 ∨ 0xDFFF < second then
    throw (c.here .loneSurrogate)
  return (Char.ofNat ((first - 0xD800) * 0x400 + (second - 0xDC00) + 0x10000), c)

/-- The character of an escape whose backslash has been read. -/
def escape : Decoder Char := fun c =>
  match c.next? with
  | none => .error (c.here .endInString)
  | some ('"', c) => .ok ('"', c)
  | some ('\\', c) => .ok ('\\', c)
  | some ('/', c) => .ok ('/', c)
  | some ('b', c) => .ok ('\x08', c)
  | some ('f', c) => .ok ('\x0c', c)
  | some ('n', c) => .ok ('\n', c)
  | some ('r', c) => .ok ('\r', c)
  | some ('t', c) => .ok ('\t', c)
  | some ('u', c) => codeEscape c
  | some (_, c) => .error (c.here .invalidEscape)

/-- The bytes of a string up to its closing quote, put before those already read in reverse. The
budget is the number of bytes left, so that none is left when it is used up.
-/
def stringBytes (read : List UInt8) : (budget : Nat) → Decoder (List UInt8)
  | 0, c => .error (c.here .endInString)
  | budget + 1, c =>
      match c.rest with
      | [] => .error (c.here .endInString)
      | byte :: _ =>
          let after := c.advance 1
          if byte = 34 then
            .ok (read.reverse, after)
          else if byte = 92 then
            match escape after with
            | .ok (char, after) =>
                stringBytes ((String.utf8EncodeChar char).reverse ++ read) budget after
            | .error fault => .error fault
          else if byte < 32 then
            .error (after.here .controlCharacter)
          else
            stringBytes (byte :: read) budget after

/-- A string after its opening quote. Its bytes have to be UTF-8; the place of a malformed one is
counted back from the closing quote.
-/
def stringTail : Decoder String := fun c => do
  let (bytes, c) ← stringBytes [] c.rest.length c
  match Text.ofUtf8 bytes with
  | .ok text => return (text, c)
  | .error wellFormed => throw ⟨.invalidCodePoint, c.offset - (bytes.length - wellFormed)⟩

end ComponentCrd.Json.Decode
