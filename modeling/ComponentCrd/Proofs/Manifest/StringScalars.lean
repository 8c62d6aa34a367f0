import ComponentCrd.Proofs.Manifest.PlainScalars
import ComponentCrd.Proofs.Manifest.QuotedScalars

/-! The scalar of a string stands for the string, whatever the string is, and names it as a key. -/

namespace ComponentCrd.Yaml.Reader

variable (float? : List Char → Option Binary64)

-----------------------------------------------------------------------------------------
-- Double-quoted strings
-----------------------------------------------------------------------------------------

/-- A string in double quotes stands for itself. -/
theorem standsFor_doubleQuoted (text : String)
    : StandsFor float? (doubleQuoted text) (.string text) := by
  have read : quoted? (text.toList.flatMap written ++ ['"']) = some (text.toList, []) :=
    quoted?_flatMap_written text.toList []
  constructor
  · simp only [doubleQuoted_eq, value?, read, String.ofList_toList]
  · rw [doubleQuoted_eq]
    rfl
  · simp only [doubleQuoted_eq, key?, read]
  · exact ⟨'"', _, doubleQuoted_eq text, by decide⟩
  · exact linebreak_not_mem_doubleQuoted text

/-- A string in double quotes names itself. -/
theorem names_doubleQuoted (text : String) : Names float? (doubleQuoted text) text := by
  constructor
  · intro after separated
    have read : quoted? (text.toList.flatMap written ++ ['"'] ++ ':' :: after)
        = some (text.toList, ':' :: after) := by
      rw [List.append_assoc]
      exact quoted?_flatMap_written text.toList (':' :: after)
    simp only [doubleQuoted_eq, List.cons_append, key?, read, separated, if_true,
      String.ofList_toList]
  · exact ⟨'"', _, doubleQuoted_eq text, by decide⟩
  · exact linebreak_not_mem_doubleQuoted text

-----------------------------------------------------------------------------------------
-- Plain strings
-----------------------------------------------------------------------------------------

/-- A plain string begins with a letter. -/
theorem isPlain_begins {text : List Char} (plain : isPlain text)
    : ∃ first rest, text = first :: rest ∧ first.isAlpha := by
  simp only [isPlain, Bool.and_eq_true] at plain
  cases text with
  | nil => cases plain.1.1
  | cons first rest => exact ⟨first, rest, rfl, by simpa using plain.1.1⟩

/-- A plain string holds none of some characters that are not plain. -/
theorem not_mem_of_isPlain {text others : List Char} (plain : isPlain text)
    (foreign : others.all fun c => !isPlainChar c) {c : Char} (member : c ∈ text)
    : c ∉ others := by
  intro other
  simp only [isPlain, Bool.and_eq_true] at plain
  have own := List.all_eq_true.mp plain.1.2 c member
  simpa [own] using List.all_eq_true.mp foreign c other

theorem isPlain_all {text : List Char} (plain : isPlain text)
    : ':' ∉ text ∧ '\n' ∉ text := by
  simp only [isPlain, Bool.and_eq_true] at plain
  have stands {c : Char} (member : c ∈ text) :=
    isPlainChar_stands (List.all_eq_true.mp plain.1.2 c member)
  exact ⟨fun member => (stands member).1 rfl, fun member => (stands member).2.2.1 rfl⟩

/-- A plain string stands for itself. -/
theorem standsFor_plain {text : List Char} (plain : isPlain text)
    : StandsFor float? text (.string (String.ofList text)) := by
  have read := plain?_of_isPlain float? plain
  obtain ⟨colon, linebreak⟩ := isPlain_all plain
  obtain ⟨first, rest, rfl, alpha⟩ := isPlain_begins plain
  constructor
  · rw [value?_of_plain float? (not_mem_of_isAlpha alpha (by decide)), read]
  · refine dash?_of_ne ?_
    rintro rfl
    cases alpha
  · rw [key?_of_plain, colon?_eq_none colon]
    rintro rfl
    cases alpha
  · refine ⟨first, rest, rfl, ?_⟩
    rintro rfl
    cases alpha
  · exact linebreak

/-- A plain string names itself. -/
theorem names_plain {text : List Char} (plain : isPlain text)
    : Names float? text (String.ofList text) := by
  have read := plain?_of_isPlain float? plain
  obtain ⟨colon, linebreak⟩ := isPlain_all plain
  obtain ⟨first, rest, rfl, alpha⟩ := isPlain_begins plain
  constructor
  · intro after separated
    rw [List.cons_append, key?_of_plain, ← List.cons_append, colon?_append colon separated]
    · simp only [read]
    · rintro rfl
      cases alpha
  · exact ⟨first, rest, rfl, not_mem_of_isAlpha alpha (by decide)⟩
  · exact linebreak

/-- The scalar of a string stands for the string. -/
theorem standsFor_scalarOf (text : String) : StandsFor float? (scalarOf text) (.string text) := by
  unfold scalarOf
  split
  · next plain => simpa only [String.ofList_toList] using standsFor_plain float? plain
  · exact standsFor_doubleQuoted float? text

/-- The scalar of a string names it as a key. -/
theorem names_scalarOf (text : String) : Names float? (scalarOf text) text := by
  unfold scalarOf
  split
  · next plain => simpa only [String.ofList_toList] using names_plain float? plain
  · exact names_doubleQuoted float? text

end ComponentCrd.Yaml.Reader
