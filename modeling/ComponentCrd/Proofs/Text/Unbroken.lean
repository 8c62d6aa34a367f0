import ComponentCrd.Json.Text
import ComponentCrd.Proofs.Manifest.NumberScalars
import ComponentCrd.Text.Quoted

/-! Texts that stay on one line: quoted texts, numbers and JSON values do, whatever they hold. -/

namespace ComponentCrd

/-- The text stays on one line. -/
def Unbroken (text : String) : Prop := '\n' ∉ text.toList

instance (text : String) : Decidable (Unbroken text) :=
  inferInstanceAs (Decidable ('\n' ∉ text.toList))

theorem unbroken_append {first second : String}
    : Unbroken (first ++ second) ↔ Unbroken first ∧ Unbroken second := by
  simp [Unbroken]

theorem Unbroken.append {first second : String} (unbroken : Unbroken first)
    (more : Unbroken second)
    : Unbroken (first ++ second) :=
  unbroken_append.mpr ⟨unbroken, more⟩

theorem unbroken_ofList {chars : List Char} : Unbroken (String.ofList chars) ↔ '\n' ∉ chars := by
  rw [Unbroken, String.toList_ofList]

/-- Parts with something between them, by induction over the parts. -/
theorem not_mem_intercalate {separator : List Char} (between : '\n' ∉ separator)
    {parts : List (List Char)} (each : ∀ part ∈ parts, '\n' ∉ part)
    : '\n' ∉ separator.intercalate parts := by
  induction parts with
  | nil => simp
  | cons part rest ih =>
      have first := each part (.head _)
      have others := ih fun other member => each other (.tail _ member)
      cases rest with
      | nil => simpa using first
      | cons next more =>
          rw [List.intercalate_cons_cons]
          simp only [List.mem_append, not_or]
          exact ⟨⟨first, between⟩, others⟩

theorem unbroken_intercalate {texts : List String} (each : ∀ text ∈ texts, Unbroken text)
    : Unbroken (", ".intercalate texts) := by
  rw [Unbroken, String.toList_intercalate]
  refine not_mem_intercalate (by decide) fun part member => ?_
  obtain ⟨text, inside, rfl⟩ := List.mem_map.mp member
  exact each text inside

-----------------------------------------------------------------------------------------
-- Numbers
-----------------------------------------------------------------------------------------

/-- Digits in any base, by induction over the steps that find them. -/
theorem not_mem_toDigits (base n : Nat) : '\n' ∉ Nat.toDigits base n := by
  have go (fuel n : Nat) (found : List Char) (free : '\n' ∉ found)
      : '\n' ∉ Nat.toDigitsCore base fuel n found := by
    induction fuel generalizing n found with
    | zero => exact free
    | succ fuel ih =>
        have more : '\n' ∉ Nat.digitChar (n % base) :: found :=
          List.not_mem_cons_of_ne_of_not_mem (by simp) free
        rw [Nat.toDigitsCore]
        split
        · exact more
        · exact ih _ _ more
  exact go _ _ [] (by simp)

theorem unbroken_toString (n : Nat) : Unbroken (toString n) := by
  rw [Unbroken, Nat.toString_eq_repr, Nat.toList_repr]
  exact not_mem_toDigits 10 n

theorem not_mem_numberChars (number : Number) : '\n' ∉ number.chars :=
  (Yaml.Reader.numeric_chars number).not_mem (by decide) (by decide)

-----------------------------------------------------------------------------------------
-- Texts with escapes
-----------------------------------------------------------------------------------------

/-- A character between quotes: the line feed has an escape, and escapes have none. -/
theorem not_mem_escaped (c : Char) : '\n' ∉ Text.escaped c := by
  unfold Text.escaped
  split
  case h_7 _ _ _ lineFeed _ _ _ =>
    split
    · simpa [Text.hexDigits] using not_mem_toDigits 16 _
    · simpa using Ne.symm lineFeed
  all_goals decide

/-- A quoted text stays on one line. -/
theorem unbroken_quoted (text : String) : Unbroken (Text.quoted text) := by
  rw [Text.quoted, unbroken_ofList]
  simp [not_mem_escaped]

theorem not_mem_escapedChar (c : Char) : '\n' ∉ Json.escapedChar c := by
  unfold Json.escapedChar
  split
  case h_8 _ _ _ _ _ lineFeed _ _ =>
    split
    · simp [Text.lowerHex]
    · simpa using Ne.symm lineFeed
  all_goals decide

theorem not_mem_stringChars (text : String) : '\n' ∉ Json.stringChars text := by
  simp [Json.stringChars, not_mem_escapedChar]

mutual

/-- The compact text of a JSON value, by recursion over the values inside it. -/
theorem not_mem_chars (value : Json) : '\n' ∉ value.chars := by
  cases value with
  | null => decide
  | bool value => cases value <;> decide
  | number value => exact not_mem_numberChars value
  | string text => exact not_mem_stringChars text
  | array items => simpa [Json.chars] using not_mem_itemChars true items
  | object members => simpa [Json.chars] using not_mem_memberChars true members

theorem not_mem_itemChars (first : Bool) (items : List Json)
    : '\n' ∉ Json.itemChars first items := by
  cases items with
  | nil => simp [Json.itemChars]
  | cons item rest =>
      have inside := not_mem_chars item
      have behind := not_mem_itemChars false rest
      cases first <;> simp [Json.itemChars, inside, behind]

theorem not_mem_memberChars (first : Bool) (members : Entries Json)
    : '\n' ∉ Json.memberChars first members := by
  cases members with
  | nil => simp [Json.memberChars]
  | cons entry rest =>
      have named := not_mem_stringChars entry.1
      have inside := not_mem_chars entry.2
      have behind := not_mem_memberChars false rest
      cases first <;> simp [Json.memberChars, named, inside, behind]

end

/-- The compact text of a JSON value stays on one line. -/
theorem unbroken_compact (value : Json) : Unbroken value.compact := by
  rw [Json.compact, unbroken_ofList]
  exact not_mem_chars value

end ComponentCrd
