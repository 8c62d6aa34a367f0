import ComponentCrd.Package.Document

/-! JSON texts taken apart. A tree keeps what a text says as it is spelled: the digits of numbers,
the escapes of strings, and the members of objects in the order in which they are written, whether
a name is repeated or not. A tree spells all texts that differ in nothing but blanks. What a reader
makes of a text is a matter of its tree.
-/

namespace ComponentCrd.Json

/-- Whether a byte is a decimal digit. -/
def isDigitByte (byte : UInt8) : Bool := (Char.ofNat byte.toNat).isDigit

/-- A text of blanks only. -/
def Blank (text : List UInt8) : Prop := ∀ byte ∈ text, Cursor.isBlank (Char.ofNat byte.toNat)

/-- A byte with blanks around it. -/
def Around (byte : UInt8) (text : List UInt8) : Prop :=
  ∃ before after, Blank before ∧ Blank after ∧ text = before ++ byte :: after

-----------------------------------------------------------------------------------------
-- Strings
-----------------------------------------------------------------------------------------

/-- The number of four bytes that are hexadecimal digits. -/
def hexNumber? (digits : List UInt8) : Option Nat :=
  (digits.mapM fun byte => Text.digitValue? 16 (Char.ofNat byte.toNat)).map (Text.ofDigits 16)

/-- A part of a string between its quotes: a byte that stands for itself, an escape by letter, or an
escape by code.
-/
inductive StringPart where
  | byte (value : UInt8) (plain : 32 ≤ value ∧ value ≠ 34 ∧ value ≠ 92)
  | letter (value : UInt8) (known : value ∈ [34, 92, 47, 98, 102, 110, 114, 116])
  | code (w x y z : UInt8) (number : Nat) (hexadecimal : hexNumber? [w, x, y, z] = some number)

namespace StringPart

/-- The bytes of a part. -/
def bytes : StringPart → List UInt8
  | byte value _ => [value]
  | letter value _ => [92, value]
  | code w x y z _ _ => [92, 117, w, x, y, z]

/-- The character that an escape by letter stands for. -/
def letterChar (letter : UInt8) : Char :=
  if letter = 98 then '\x08'
  else if letter = 102 then '\x0c'
  else if letter = 110 then '\n'
  else if letter = 114 then '\r'
  else if letter = 116 then '\t'
  else Char.ofNat letter.toNat

/-- The bytes that the parts of a string stand for. Two codes that are a surrogate pair stand for
one character, and half of a pair stands for none.
-/
def decode : List StringPart → Option (List UInt8)
  | [] => some []
  | byte value _ :: rest => (decode rest).map (value :: ·)
  | letter value _ :: rest =>
      (decode rest).map (String.utf8EncodeChar (letterChar value) ++ ·)
  | code _ _ _ _ first _ :: rest =>
      if 0xDC00 ≤ first ∧ first ≤ 0xDFFF then none
      else if first < 0xD800 ∨ 0xDBFF < first then
        (decode rest).map (String.utf8EncodeChar (Char.ofNat first) ++ ·)
      else
        match rest with
        | code _ _ _ _ second _ :: rest =>
            if second < 0xDC00 ∨ 0xDFFF < second then none
            else
              let char := Char.ofNat ((first - 0xD800) * 0x400 + (second - 0xDC00) + 0x10000)
              (decode rest).map (String.utf8EncodeChar char ++ ·)
        | _ => none

/-- The bytes of a string between its quotes. -/
def inner (parts : List StringPart) : List UInt8 := parts.flatMap bytes

/-- The bytes of a string in its quotes. -/
def quoted (parts : List StringPart) : List UInt8 := 34 :: inner parts ++ [34]

/-- The text that the parts of a string stand for. -/
def text? (parts : List StringPart) : Option String :=
  (decode parts).bind fun bytes => (Text.ofUtf8 bytes).toOption

end StringPart

-----------------------------------------------------------------------------------------
-- Numbers
-----------------------------------------------------------------------------------------

/-- The digits of a number before its point: a zero stands alone. -/
def WholePart (digits : List UInt8) : Prop :=
  digits = [48]
  ∨ ∃ first rest, digits = first :: rest ∧ first ≠ 48 ∧ ∀ byte ∈ digits, isDigitByte byte

/-- The point of a number and its digits, if there is one. -/
def FractionPart (text : List UInt8) : Prop :=
  text = [] ∨ ∃ first rest, text = 46 :: first :: rest ∧ ∀ byte ∈ first :: rest, isDigitByte byte

/-- The exponent of a number, if there is one. -/
def ExponentPart (text : List UInt8) : Prop :=
  text = []
  ∨ ∃ mark sign first rest,
      text = mark :: (sign ++ first :: rest)
      ∧ (mark = 101 ∨ mark = 69)
      ∧ (sign = [] ∨ sign = [43] ∨ sign = [45])
      ∧ ∀ byte ∈ first :: rest, isDigitByte byte

/-- A number as it is spelled. -/
structure NumberText where
  negative : Bool
  whole : List UInt8
  fraction : List UInt8
  exponent : List UInt8
  whole_digits : WholePart whole
  fraction_digits : FractionPart fraction
  exponent_digits : ExponentPart exponent

namespace NumberText

/-- The bytes of a number behind its sign. -/
def unsigned (text : NumberText) : List UInt8 := text.whole ++ text.fraction ++ text.exponent

/-- The bytes of a number. -/
def bytes (text : NumberText) : List UInt8 :=
  if text.negative then 45 :: text.unsigned else text.unsigned

/-- The number that is read where nothing else follows. -/
def value? (text : NumberText) : Option Number :=
  (Decode.number text.negative (.start text.unsigned)).toOption.map (·.1)

end NumberText

-----------------------------------------------------------------------------------------
-- Trees and their texts
-----------------------------------------------------------------------------------------

/-- A JSON text as it is spelled, without the blanks. -/
inductive Tree where
  | null
  | bool (value : Bool)
  | number (text : NumberText)
  | string (parts : List StringPart)
  | array (items : List Tree)
  | object (members : List (List StringPart × Tree))

/-- What stands before an item: blanks, and a comma if it is not the first. -/
def Separator (first : Bool) (text : List UInt8) : Prop :=
  if first then Blank text else Around 44 text

namespace Tree

/-- A property holds of all trees if it holds of a list and of an object whenever it holds of what
is inside.
-/
@[elab_as_elim]
theorem inductionOn {motive : Tree → Prop} (tree : Tree) (null : motive .null)
    (bool : ∀ value, motive (.bool value)) (number : ∀ text, motive (.number text))
    (string : ∀ parts, motive (.string parts))
    (array : ∀ items, (∀ item ∈ items, motive item) → motive (.array items))
    (object : ∀ members, (∀ member ∈ members, motive member.2) → motive (.object members))
    : motive tree :=
  match tree with
  | .null => null
  | .bool value => bool value
  | .number text => number text
  | .string parts => string parts
  | .array items => array items fun item _ =>
      inductionOn item null bool number string array object
  | .object members => object members fun member _ =>
      inductionOn member.2 null bool number string array object
termination_by sizeOf tree
decreasing_by
  · have smaller := List.sizeOf_lt_of_mem ‹item ∈ items›
    simp only [Tree.array.sizeOf_spec]
    omega
  · have smaller := List.sizeOf_lt_of_mem ‹member ∈ members›
    cases member
    simp only [Prod.mk.sizeOf_spec, Tree.object.sizeOf_spec] at smaller ⊢
    omega

mutual

/-- The tree spells the text, which has no blanks around it. -/
def Spells : Tree → List UInt8 → Prop
  | .null, text => text = [110, 117, 108, 108]
  | .bool true, text => text = [116, 114, 117, 101]
  | .bool false, text => text = [102, 97, 108, 115, 101]
  | .number digits, text => text = digits.bytes
  | .string parts, text => text = StringPart.quoted parts
  | .array items, text => ∃ inner, SpellItems true items inner ∧ text = 91 :: inner ++ [93]
  | .object members, text => ∃ inner, SpellMembers true members inner ∧ text = 123 :: inner ++ [125]

/-- The trees spell the text of items up to the closing bracket. -/
def SpellItems (first : Bool) : List Tree → List UInt8 → Prop
  | [], text => Blank text
  | item :: rest, text =>
      ∃ before own others,
        Separator first before
        ∧ Spells item own
        ∧ SpellItems false rest others
        ∧ text = before ++ (own ++ others)

/-- The names and trees spell the text of members up to the closing bracket. -/
def SpellMembers (first : Bool) : List (List StringPart × Tree) → List UInt8 → Prop
  | [], text => Blank text
  | (name, value) :: rest, text =>
      ∃ before colon own others,
        Separator first before
        ∧ Around 58 colon
        ∧ Spells value own
        ∧ SpellMembers false rest others
        ∧ text = before ++ (StringPart.quoted name ++ (colon ++ (own ++ others)))

end

/-- The tree spells the text with blanks around it. -/
def SpellsWhole (tree : Tree) (text : List UInt8) : Prop :=
  ∃ before own after,
    Blank before ∧ tree.Spells own ∧ Blank after ∧ text = before ++ (own ++ after)

-----------------------------------------------------------------------------------------
-- What readers make of a tree
-----------------------------------------------------------------------------------------

variable {α σ : Type}

/-- The name of a member and what is made of its value. -/
def entry (value : Tree → Option α) (member : List StringPart × Tree) : Option (String × α) := do
  let name ← StringPart.text? member.1
  let value ← value member.2
  return (name, value)

/-- The value of a tree, with what is made of the nodes in its brackets, if any may be opened. -/
def valueAround (nested? : Option (Tree → Option Json)) : Tree → Option Json
  | .null => some .null
  | .bool value => some (.bool value)
  | .number text => text.value?.map .number
  | .string parts => (StringPart.text? parts).map .string
  | .array items => nested?.bind fun nested => (items.mapM nested).map .array
  | .object members =>
      nested?.bind fun nested =>
        (members.mapM (entry nested)).map fun found => .object (Entries.ofList found)

/-- The value of a tree with at most `room` open brackets at a time. -/
def value : (room : Nat) → Tree → Option Json
  | 0 => valueAround none
  | room + 1 => valueAround (some (value room))

/-- The text of a string. -/
def string? : Tree → Option String
  | .string parts => StringPart.text? parts
  | _ => none

/-- A truth value. -/
def bool? : Tree → Option Bool
  | .bool value => some value
  | _ => none

/-- The items of a list. -/
def list? (item : Nat → Tree → Option α) : (room : Nat) → Tree → Option (List α)
  | room + 1, .array items => items.mapM (item room)
  | _, _ => none

/-- The entries of a map. -/
def map? (value : Nat → Tree → Option α) : (room : Nat) → Tree → Option (Entries α)
  | room + 1, .object members => (members.mapM (entry (value room))).map Entries.ofList
  | _, _ => none

/-- A field of a record: its name, and what its value puts into the record. -/
structure Field (σ : Type) where
  name : String
  put? : (room : Nat) → Tree → Option (σ → σ)

/-- The field of a name, with what is made of its value and the way to put that into a record. -/
def field (name : String) (value : Nat → Tree → Option α) (put : α → σ → σ) : Field σ :=
  ⟨name, fun room tree => (value room tree).map put⟩

/-- What a member with a name adds to what is made of the members before it. -/
def memberStep (step : String → σ → Tree → Option σ) (result : σ) (member : List StringPart × Tree)
    : Option σ :=
  (StringPart.text? member.1).bind fun name => step name result member.2

/-- What a member adds to a record: a known field may stand once, an unknown one adds nothing. -/
def recordStep (fields : List (Field σ)) (room : Nat) (name : String) (result : List String × σ)
    (value : Tree) : Option (List String × σ) :=
  match fields.find? (·.name == name) with
  | some field =>
      if result.1.contains name then none
      else (field.put? room value).map fun put => (name :: result.1, put result.2)
  | none => some result

/-- The fields of a record from a list, in their order. -/
def recordItems (room : Nat) : List (Field σ) → List Tree → σ → Option σ
  | _, [], result => some result
  | [], _ :: _, _ => none
  | field :: fields, item :: items, result =>
      (field.put? room item).bind fun put => recordItems room fields items (put result)

/-- A record, from an object or from a list of its fields. -/
def record? (fields : List (Field σ)) (initial : σ) : (room : Nat) → Tree → Option σ
  | room + 1, .array items => recordItems room fields items initial
  | room + 1, .object members =>
      (members.foldlM (memberStep (recordStep fields room)) ([], initial)).map (·.2)
  | _, _ => none

end Tree

end ComponentCrd.Json

namespace ComponentCrd.Document

open Json Tree

/-- The fields of a resource, by trees. -/
def resourceTreeFields : List (Tree.Field Resource) := [
  field "isComponent" (fun _ => bool?) fun value resource =>
    { resource with isComponent := value },
  field "inputProperties" (map? Tree.value) fun value resource =>
    { resource with inputProperties := value },
  field "requiredInputs" (list? fun _ => string?) fun value resource =>
    { resource with requiredInputs := value }]

/-- The fields of a document, by trees. -/
def documentTreeFields : List (Tree.Field Document) := [
  field "name" (fun _ => string?) fun value doc => { doc with name := value },
  field "version" (fun _ => string?) fun value doc => { doc with version := value },
  field "resources" (map? (record? resourceTreeFields {})) fun value doc =>
    { doc with resources := value },
  field "types" (map? Tree.value) fun value doc => { doc with types := value }]

/-- The document of a tree. -/
def ofTree? (tree : Tree) : Option Document :=
  record? documentTreeFields {} Decode.deepest tree

end ComponentCrd.Document
