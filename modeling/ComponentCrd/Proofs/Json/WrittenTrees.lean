import ComponentCrd.Json.Text
import ComponentCrd.Proofs.Json.Reading

/-! Trees written down. Every tree has a text without blanks, and every string can be written as the
parts of one; a character is escaped by letter, by code, or stands for itself.
-/

namespace ComponentCrd.Json

open StringPart

namespace Tree

mutual

/-- The text of a tree without blanks. -/
def text : Tree → List UInt8
  | .null => [110, 117, 108, 108]
  | .bool true => [116, 114, 117, 101]
  | .bool false => [102, 97, 108, 115, 101]
  | .number digits => digits.bytes
  | .string parts => quoted parts
  | .array items => 91 :: itemsText true items ++ [93]
  | .object members => 123 :: membersText true members ++ [125]

/-- The text of items up to the closing bracket. -/
def itemsText (first : Bool) : List Tree → List UInt8
  | [] => []
  | item :: rest => (if first then [] else [44]) ++ (item.text ++ itemsText false rest)

/-- The text of members up to the closing bracket. -/
def membersText (first : Bool) : List (List StringPart × Tree) → List UInt8
  | [] => []
  | (name, value) :: rest =>
      (if first then [] else [44])
        ++ (quoted name ++ ([58] ++ (value.text ++ membersText false rest)))

end

theorem separator_text (first : Bool) : Separator first (if first then [] else [44]) := by
  cases first with
  | true => exact blank_nil
  | false => exact ⟨[], [], blank_nil, blank_nil, rfl⟩

theorem spellItems_text {items : List Tree} (spelled : ∀ item ∈ items, item.Spells item.text)
    (first : Bool)
    : SpellItems first items (itemsText first items) := by
  induction items generalizing first with
  | nil => exact blank_nil
  | cons item rest ih =>
      exact ⟨_, _, _, separator_text first, spelled item (.head _),
        ih (fun item member => spelled item (.tail _ member)) false, rfl⟩

theorem spellMembers_text {members : List (List StringPart × Tree)}
    (spelled : ∀ member ∈ members, member.2.Spells member.2.text) (first : Bool)
    : SpellMembers first members (membersText first members) := by
  induction members generalizing first with
  | nil => exact blank_nil
  | cons member rest ih =>
      exact ⟨_, _, _, _, separator_text first, ⟨[], [], blank_nil, blank_nil, rfl⟩,
        spelled member (.head _), ih (fun item member => spelled item (.tail _ member)) false, rfl⟩

/-- A tree spells its text, by induction on the tree. -/
theorem spells_text (tree : Tree) : tree.Spells tree.text := by
  induction tree using inductionOn with
  | null | number _ | string _ => rfl
  | bool value => cases value <;> rfl
  | array items ih => exact ⟨_, spellItems_text ih true, rfl⟩
  | object members ih => exact ⟨_, spellMembers_text ih true, rfl⟩

theorem spellsWhole_text (tree : Tree) : tree.SpellsWhole tree.text :=
  ⟨[], _, [], blank_nil, tree.spells_text, blank_nil, by simp⟩

end Tree

-----------------------------------------------------------------------------------------
-- Strings
-----------------------------------------------------------------------------------------

/-- The bytes of a text are those of the text. -/
theorem ofUtf8_toUtf8 (text : String) : Text.ofUtf8 (Text.toUtf8 text) = .ok text := by
  have valid : (Text.toUtf8 text).toByteArray.IsValidUTF8 := .intro text.toList rfl
  have read : String.fromUTF8? (Text.toUtf8 text).toByteArray = some text := by
    rw [String.fromUTF8?, dif_pos valid]
    exact congrArg some (String.ofList_toList)
  rw [Text.ofUtf8, read]

/-- A character is one byte if it is ASCII, and otherwise its bytes are not. -/
theorem of_mem_utf8EncodeChar {c : Char} {byte : UInt8} (member : byte ∈ String.utf8EncodeChar c)
    : byte.toNat = c.toNat ∨ 128 ≤ byte.toNat := by
  change byte ∈ String.utf8EncodeChar c at member
  have code : c.val.toNat = c.toNat := rfl
  unfold String.utf8EncodeChar at member
  simp only [code] at member
  split at member
  · obtain rfl := List.mem_singleton.mp member
    refine .inl ?_
    rw [UInt8.toNat_ofNat']
    omega
  · refine .inr ?_
    split at member
    · simp only [List.mem_cons, List.not_mem_nil, or_false] at member
      rcases member with rfl | rfl <;> rw [UInt8.toNat_ofNat'] <;> omega
    · split at member
      · simp only [List.mem_cons, List.not_mem_nil, or_false] at member
        rcases member with rfl | rfl | rfl <;> rw [UInt8.toNat_ofNat'] <;> omega
      · simp only [List.mem_cons, List.not_mem_nil, or_false] at member
        rcases member with rfl | rfl | rfl | rfl <;> rw [UInt8.toNat_ofNat'] <;> omega

/-- The bytes of a character that is not escaped stand for themselves. -/
theorem plain_of_mem {c : Char} (quote : c ≠ '"') (backslash : c ≠ '\\') (control : ¬c.toNat < 0x20)
    {byte : UInt8} (member : byte ∈ String.utf8EncodeChar c)
    : 32 ≤ byte ∧ byte ≠ 34 ∧ byte ≠ 92 := by
  have differs {n : Nat} (other : c ≠ Char.ofNat n) : c.toNat ≠ n := by
    rintro rfl
    exact other (Char.ofNat_toNat c).symm
  have quote : c.toNat ≠ 34 := differs quote
  have backslash : c.toNat ≠ 92 := differs backslash
  have code := of_mem_utf8EncodeChar member
  refine ⟨UInt8.le_iff_toNat_le.mpr ?_, ?_, ?_⟩
  · change 32 ≤ byte.toNat
    omega
  · rintro rfl
    change 34 = c.toNat ∨ 128 ≤ 34 at code
    omega
  · rintro rfl
    change 92 = c.toNat ∨ 128 ≤ 92 at code
    omega

/-- The parts spell the bytes and stand for the text. -/
def SpellsText (parts : List StringPart) (spelled text : List UInt8) : Prop :=
  inner parts = spelled ∧ ∀ rest, decode (parts ++ rest) = (decode rest).map (text ++ ·)

theorem SpellsText.append {first second : List StringPart}
    {spelled spelled' text text' : List UInt8} (spells : SpellsText first spelled text)
    (spells' : SpellsText second spelled' text')
    : SpellsText (first ++ second) (spelled ++ spelled') (text ++ text') := by
  refine ⟨?_, fun rest => ?_⟩
  · rw [← spells.1, ← spells'.1]
    exact List.flatMap_append
  · rw [List.append_assoc, spells.2, spells'.2, Option.map_map]
    congr 1
    funext bytes
    simp

theorem spellsText_nil : SpellsText [] [] [] := ⟨rfl, fun rest => by simp⟩

/-- Bytes that stand for themselves. -/
theorem exists_spellsText_plain {bytes : List UInt8}
    (plain : ∀ byte ∈ bytes, 32 ≤ byte ∧ byte ≠ 34 ∧ byte ≠ 92)
    : ∃ parts, SpellsText parts bytes bytes := by
  induction bytes with
  | nil => exact ⟨[], spellsText_nil⟩
  | cons byte others ih =>
      obtain ⟨parts, spells⟩ := ih fun byte member => plain byte (.tail _ member)
      have first : SpellsText [.byte byte (plain byte (.head _))] [byte] [byte] :=
        ⟨rfl, fun rest => rfl⟩
      exact ⟨_, first.append spells⟩

/-- The four digits of the code of a control character. -/
theorem hexNumber?_control
    : ∀ code : Fin 32,
        hexNumber? [48, 48, UInt8.ofNat (Text.lowerHex (code / 16)).toNat,
          UInt8.ofNat (Text.lowerHex code).toNat] = some code.val
        ∧ String.utf8EncodeChar (Text.lowerHex (code / 16))
            = [UInt8.ofNat (Text.lowerHex (code / 16)).toNat]
        ∧ String.utf8EncodeChar (Text.lowerHex code)
            = [UInt8.ofNat (Text.lowerHex code).toNat] := by
  decide

/-- A character is spelled by parts. -/
theorem exists_spellsText (c : Char)
    : ∃ parts, SpellsText parts ((escapedChar c).flatMap String.utf8EncodeChar)
        (String.utf8EncodeChar c) := by
  unfold escapedChar
  split
  · exact ⟨[.letter 34 (by decide)], rfl, fun rest => rfl⟩
  · exact ⟨[.letter 92 (by decide)], rfl, fun rest => rfl⟩
  · exact ⟨[.letter 98 (by decide)], rfl, fun rest => rfl⟩
  · exact ⟨[.letter 116 (by decide)], rfl, fun rest => rfl⟩
  · exact ⟨[.letter 110 (by decide)], rfl, fun rest => rfl⟩
  · exact ⟨[.letter 102 (by decide)], rfl, fun rest => rfl⟩
  · exact ⟨[.letter 114 (by decide)], rfl, fun rest => rfl⟩
  · next quote backslash _ _ _ _ _ =>
      split
      · next control =>
          obtain ⟨hexadecimal, upper, lower⟩ := hexNumber?_control ⟨c.toNat, control⟩
          refine ⟨[.code _ _ _ _ _ hexadecimal], ?_, fun rest => ?_⟩
          · simp only [List.flatMap_cons, upper, lower]
            rfl
          · have noLower : ¬(0xDC00 ≤ c.toNat ∧ c.toNat ≤ 0xDFFF) := by omega
            have single : c.toNat < 0xD800 ∨ 0xDBFF < c.toNat := by omega
            rw [List.singleton_append, decode.eq_def]
            simp only [noLower, single, if_false, if_true, Char.ofNat_toNat]
      · next control =>
          obtain ⟨parts, spells⟩ :=
            exists_spellsText_plain fun byte => plain_of_mem quote backslash control
          exact ⟨parts, by simpa using spells⟩

/-- A string is spelled by parts, character by character. -/
theorem exists_parts (text : String)
    : ∃ parts, quoted parts = (stringChars text).flatMap String.utf8EncodeChar
        ∧ text? parts = some text := by
  have all (chars : List Char)
      : ∃ parts, SpellsText parts ((chars.flatMap escapedChar).flatMap String.utf8EncodeChar)
          (chars.flatMap String.utf8EncodeChar) := by
    induction chars with
    | nil => exact ⟨[], spellsText_nil⟩
    | cons c others ih =>
        obtain ⟨parts, spells⟩ := ih
        obtain ⟨own, spellsOwn⟩ := exists_spellsText c
        refine ⟨own ++ parts, ?_⟩
        rw [List.flatMap_cons, List.flatMap_append, List.flatMap_cons]
        exact spellsOwn.append spells
  obtain ⟨parts, spelled, decodes⟩ := all text.toList
  refine ⟨parts, ?_, ?_⟩
  · simp only [quoted, spelled, stringChars, List.flatMap_append, List.flatMap_cons]
    rfl
  · have decodes := decodes []
    rw [List.append_nil] at decodes
    have read := ofUtf8_toUtf8 text
    unfold Text.toUtf8 at read
    rw [text?, decodes]
    simp [decode, read, Except.toOption]

end ComponentCrd.Json
