import ComponentCrd.Manifest.Scalar
import ComponentCrd.Proofs.Manifest.ScalarReader

/-! Double-quoted scalars read back: every character of a string is read as itself, whether it was
written as such, escaped for JSON, or shown by its code.
-/

namespace ComponentCrd.Yaml.Reader

-----------------------------------------------------------------------------------------
-- Codes
-----------------------------------------------------------------------------------------

private theorem lowerHex_all
    : ∀ digit < 16, Text.digitValue? 16 (Nat.digitChar digit) = some digit := by
  decide

private theorem upperHex_all
    : ∀ digit < 16, Text.digitValue? 16 (Nat.digitChar digit).toUpper = some digit := by
  decide

/-- A lower-case digit has the value of the last digit of the number. -/
theorem digitValue?_lowerHex (n : Nat) : Text.digitValue? 16 (Text.lowerHex n) = some (n % 16) :=
  lowerHex_all _ (Nat.mod_lt _ (by decide))

/-- An upper-case digit has the value of the last digit of the number. -/
theorem digitValue?_upperHex (n : Nat) : Text.digitValue? 16 (Text.upperHex n) = some (n % 16) :=
  upperHex_all _ (Nat.mod_lt _ (by decide))

/-- The code of a character leads back to it. -/
theorem ofCode?_of_numberOf? {digits : List Char} {c : Char}
    (code : Text.numberOf? 16 digits = some c.toNat)
    : ofCode? digits = some c := by
  have valid : c.toNat.isValidChar := c.valid
  simp [ofCode?, code, valid]

/-- A character whose code fits two digits is read from them. -/
theorem unescape?_two {c : Char} (small : c.toNat ≤ 0xFF) (rest : List Char)
    : unescape? ('x' :: Text.upperHex (c.toNat / 16) :: Text.upperHex c.toNat :: rest)
      = some (c, rest) := by
  have code
      : Text.numberOf? 16 [Text.upperHex (c.toNat / 16), Text.upperHex c.toNat]
        = some c.toNat := by
    simp only [Text.numberOf?, List.mapM_cons, List.mapM_nil, digitValue?_upperHex, Option.map_some,
      Option.pure_def, Option.bind_eq_bind, Option.bind_some, Text.ofDigits, List.foldl_cons,
      List.foldl_nil, Option.some.injEq]
    omega
  simp [unescape?, codeLengths, ofCode?_of_numberOf? code]

/-- A character whose code fits four digits is read from them, in upper or in lower case. -/
theorem unescape?_four {c : Char} {first second third fourth : Char} (small : c.toNat < 65536)
    (one : Text.digitValue? 16 first = some (c.toNat / 4096 % 16))
    (two : Text.digitValue? 16 second = some (c.toNat / 256 % 16))
    (three : Text.digitValue? 16 third = some (c.toNat / 16 % 16))
    (four : Text.digitValue? 16 fourth = some (c.toNat % 16)) (rest : List Char)
    : unescape? ('u' :: first :: second :: third :: fourth :: rest) = some (c, rest) := by
  have code : Text.numberOf? 16 [first, second, third, fourth] = some c.toNat := by
    simp only [Text.numberOf?, List.mapM_cons, List.mapM_nil, one, two, three, four,
      Option.map_some, Option.pure_def, Option.bind_eq_bind, Option.bind_some, Text.ofDigits,
      List.foldl_cons, List.foldl_nil, Option.some.injEq]
    omega
  simp [unescape?, codeLengths, List.lookup_cons, ofCode?_of_numberOf? code]

-----------------------------------------------------------------------------------------
-- One character after the other
-----------------------------------------------------------------------------------------

theorem quoted?_quote (rest : List Char) : quoted? ('"' :: rest) = some ([], rest) := by
  rw [quoted?, if_pos rfl]

theorem quoted?_escape {text after : List Char} {c : Char}
    (read : unescape? text = some (c, after))
    : quoted? ('\\' :: text)
      = (quoted? after).map fun (others, follows) => (c :: others, follows) := by
  rw [quoted?, if_neg (by decide), if_pos rfl]
  split
  · next found =>
      obtain ⟨rfl, rfl⟩ := Prod.mk.inj (Option.some.inj (found.symm.trans read))
      rfl
  · next none => cases none.symm.trans read

theorem quoted?_char {c : Char} (quote : c ≠ '"') (backslash : c ≠ '\\') (text : isTextChar c)
    (rest : List Char)
    : quoted? (c :: rest)
      = (quoted? rest).map fun (others, follows) => (c :: others, follows) := by
  rw [quoted?, if_neg quote, if_neg backslash, if_pos text]

/-- A character as it is written between double quotes. -/
def written (c : Char) : List Char := (Json.escapedChar c).flatMap visibleChar

theorem visibleChar_printable {c : Char} (printable : isPrintable c) : visibleChar c = [c] := by
  rw [visibleChar, if_pos printable]

/-- A backslash and printable characters are shown as they are. -/
theorem flatMap_visibleChar {text : List Char} (printable : ∀ c ∈ text, isPrintable c)
    : text.flatMap visibleChar = text := by
  induction text with
  | nil => rfl
  | cons c rest ih =>
      rw [List.flatMap_cons, visibleChar_printable (printable c (.head _)),
        ih fun c member => printable c (.tail _ member)]
      rfl

private theorem isPrintable_digitChar_all : ∀ digit < 16, isPrintable (Nat.digitChar digit) := by
  decide

theorem isPrintable_lowerHex (n : Nat) : isPrintable (Text.lowerHex n) :=
  isPrintable_digitChar_all _ (Nat.mod_lt _ (by decide))

/-- A control character that JSON shows by its code reads back. -/
theorem quoted?_control {c : Char} (control : c.toNat < 0x20) (rest : List Char)
    : quoted?
        (['\\', 'u', '0', '0', Text.lowerHex (c.toNat / 16), Text.lowerHex c.toNat].flatMap
            visibleChar
          ++ rest)
      = (quoted? rest).map fun (others, follows) => (c :: others, follows) := by
  have zero (n : Nat) (none : n = 0) : Text.digitValue? 16 '0' = some (n % 16) := by
    rw [none]
    decide
  rw [flatMap_visibleChar]
  · refine quoted?_escape (unescape?_four (by omega) (zero _ ?_) (zero _ ?_)
      (digitValue?_lowerHex _) (digitValue?_lowerHex _) rest)
    · omega
    · omega
  · simp only [List.forall_mem_cons, isPrintable_lowerHex, List.not_mem_nil, false_implies,
      implies_true, and_true]
    decide

/-- A character that JSON does not escape, and that is not printable, fits its code. -/
theorem toNat_lt_of_not_printable {c : Char} (hidden : isPrintable c = false)
    : c.toNat < 65536 := by
  refine Nat.lt_of_not_le fun large => ?_
  have printable : isPrintable c = true := by
    simp only [isPrintable, Bool.or_eq_true, decide_eq_true_eq]
    exact .inr large
  exact nomatch printable.symm.trans hidden

/-- A printable character that JSON does not escape is one of a line. -/
theorem isTextChar_of_printable {c : Char} (printable : isPrintable c) (large : 0x20 ≤ c.toNat)
    : isTextChar c := by
  simp only [isPrintable, isTextChar, Bool.or_eq_true, Bool.and_eq_true, beq_iff_eq,
    decide_eq_true_eq, bne_iff_ne] at *
  omega

/-- A character that JSON leaves as it is reads back, as itself or from its code. -/
theorem quoted?_visibleChar {c : Char} (quote : c ≠ '"') (backslash : c ≠ '\\')
    (large : 0x20 ≤ c.toNat) (rest : List Char)
    : quoted? (visibleChar c ++ rest)
      = (quoted? rest).map fun (others, follows) => (c :: others, follows) := by
  rw [visibleChar]
  split
  · next printable =>
      exact quoted?_char quote backslash (isTextChar_of_printable printable large) rest
  · next hidden =>
      split
      · next small => exact quoted?_escape (unescape?_two small rest)
      · have small := toNat_lt_of_not_printable (Bool.eq_false_iff.mpr hidden)
        exact quoted?_escape
          (unescape?_four small (digitValue?_upperHex _) (digitValue?_upperHex _)
            (digitValue?_upperHex _) (digitValue?_upperHex _) rest)

/-- Every character of a string reads back. Witness: the escapes of JSON are escapes of YAML, and
what they are made of is printable.
-/
theorem quoted?_written (c : Char) (rest : List Char)
    : quoted? (written c ++ rest)
      = (quoted? rest).map fun (others, follows) => (c :: others, follows) := by
  unfold written Json.escapedChar
  split
  · exact quoted?_escape rfl
  · exact quoted?_escape rfl
  · exact quoted?_escape rfl
  · exact quoted?_escape rfl
  · exact quoted?_escape rfl
  · exact quoted?_escape rfl
  · exact quoted?_escape rfl
  · next quote backslash _ _ _ _ _ =>
      split
      · next control => exact quoted?_control control rest
      · next large =>
          rw [List.flatMap_singleton]
          exact quoted?_visibleChar quote backslash (by omega) rest

/-- A string in double quotes reads back, by induction on the string. -/
theorem quoted?_flatMap_written (text rest : List Char)
    : quoted? (text.flatMap written ++ '"' :: rest) = some (text, rest) := by
  induction text with
  | nil => exact quoted?_quote rest
  | cons c others ih =>
      rw [List.flatMap_cons, List.append_assoc, quoted?_written, ih]
      rfl

/-- A JSON string that is printable is the same with every character shown. -/
theorem doubleQuoted_eq_flatMap (text : String)
    : doubleQuoted text = (Json.stringChars text).flatMap visibleChar := by
  rw [doubleQuoted]
  split
  · next printable => rw [flatMap_visibleChar (List.all_eq_true.mp printable)]
  · rfl

theorem doubleQuoted_eq (text : String)
    : doubleQuoted text = '"' :: (text.toList.flatMap written ++ ['"']) := by
  have quote : visibleChar '"' = ['"'] := rfl
  rw [doubleQuoted_eq_flatMap, Json.stringChars, List.cons_append, List.flatMap_cons,
    List.flatMap_append, List.flatMap_assoc, quote]
  rfl

-----------------------------------------------------------------------------------------
-- No line breaks
-----------------------------------------------------------------------------------------

private theorem upperHex_ne_linebreak_all : ∀ digit < 16, '\n' ≠ (Nat.digitChar digit).toUpper := by
  decide

theorem upperHex_ne_linebreak (n : Nat) : '\n' ≠ Text.upperHex n :=
  upperHex_ne_linebreak_all _ (Nat.mod_lt _ (by decide))

/-- JSON escapes every control character. -/
theorem large_of_mem_escapedChar {c d : Char} (member : d ∈ Json.escapedChar c)
    : 0x20 ≤ d.toNat := by
  have digits : ∀ digit < 16, 0x20 ≤ (Nat.digitChar digit).toNat := by decide
  have lower (n : Nat) : 0x20 ≤ (Text.lowerHex n).toNat := digits _ (Nat.mod_lt _ (by decide))
  unfold Json.escapedChar at member
  split at member
  case h_8 =>
    split at member
    · simp only [List.mem_cons, List.not_mem_nil, or_false] at member
      rcases member with rfl | rfl | rfl | rfl | rfl | rfl
      · decide
      · decide
      · decide
      · decide
      · exact lower _
      · exact lower _
    · next large =>
        obtain rfl := List.mem_singleton.mp member
        omega
  all_goals
    simp only [List.mem_cons, List.not_mem_nil, or_false] at member
    rcases member with rfl | rfl
    · decide
    · decide

/-- Nothing is shown as a line break. -/
theorem linebreak_not_mem_visibleChar {c : Char} (large : 0x20 ≤ c.toNat)
    : '\n' ∉ visibleChar c := by
  have differs : '\n' ≠ c := by
    rintro rfl
    exact absurd large (by decide)
  simp only [visibleChar]
  split
  · simp [differs]
  · split
    · simp [upperHex_ne_linebreak]
    · simp [upperHex_ne_linebreak]

theorem linebreak_not_mem_doubleQuoted (text : String) : '\n' ∉ doubleQuoted text := by
  rw [doubleQuoted_eq]
  simp only [List.mem_cons, List.mem_append, List.mem_flatMap, written, List.not_mem_nil, or_false,
    not_or, not_exists, not_and]
  refine ⟨by decide, ?_, by decide⟩
  intro c _ d member
  exact linebreak_not_mem_visibleChar (large_of_mem_escapedChar member)

end ComponentCrd.Yaml.Reader
