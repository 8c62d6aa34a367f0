import ComponentCrd.Proofs.Json.Reading

/-! Strings are read by their parts. An escape by code may want the next one, so the parts are
followed as they are decoded: one at a time, or the two halves of a surrogate pair together.
-/

namespace ComponentCrd.Json

open Decode StringPart

variable {rest : List UInt8} {offset : Nat}

theorem fourHexDigits_eq_ok {w x y z : UInt8} {number : Nat}
    (hexadecimal : hexNumber? [w, x, y, z] = some number)
    : fourHexDigits ⟨w :: x :: y :: z :: rest, offset⟩ = .ok (number, ⟨rest, offset + 4⟩) := by
  obtain ⟨digits, found, rfl⟩ := Option.map_eq_some_iff.mp hexadecimal
  simp [fourHexDigits, found, Cursor.advance]

/-- An escape by letter. -/
theorem escape_letter {letter : UInt8} (known : letter ∈ [34, 92, 47, 98, 102, 110, 114, 116])
    : escape ⟨letter :: rest, offset⟩ = .ok (letterChar letter, ⟨rest, offset + 1⟩) := by
  simp only [List.mem_cons, List.not_mem_nil, or_false] at known
  rcases known with rfl | rfl | rfl | rfl | rfl | rfl | rfl | rfl <;> rfl

section

variable {w x y z : UInt8} {first : Nat}

/-- An escape by the code of a character that is no half of a surrogate pair. -/
theorem escape_code (hexadecimal : hexNumber? [w, x, y, z] = some first)
    (lower : ¬(0xDC00 ≤ first ∧ first ≤ 0xDFFF)) (single : first < 0xD800 ∨ 0xDBFF < first)
    : escape ⟨117 :: w :: x :: y :: z :: rest, offset⟩
      = .ok (Char.ofNat first, ⟨rest, offset + 1 + 4⟩) := by
  change codeEscape ⟨w :: x :: y :: z :: rest, offset + 1⟩ = _
  unfold codeEscape
  rw [fourHexDigits_eq_ok hexadecimal]
  simp [bind, Except.bind, pure, Except.pure, lower, single]

/-- The second half of a surrogate pair does not come first. -/
theorem escape_lower (hexadecimal : hexNumber? [w, x, y, z] = some first)
    (lower : 0xDC00 ≤ first ∧ first ≤ 0xDFFF)
    : outcome (escape ⟨117 :: w :: x :: y :: z :: rest, offset⟩) = none := by
  change outcome (codeEscape ⟨w :: x :: y :: z :: rest, offset + 1⟩) = none
  unfold codeEscape
  rw [fourHexDigits_eq_ok hexadecimal]
  simp [bind, Except.bind, throw, throwThe, MonadExceptOf.throw, lower, outcome]

/-- The first half of a surrogate pair is read on with what has to be the second one. -/
theorem escape_upper (hexadecimal : hexNumber? [w, x, y, z] = some first)
    (lower : ¬(0xDC00 ≤ first ∧ first ≤ 0xDFFF)) (upper : ¬(first < 0xD800 ∨ 0xDBFF < first))
    : escape ⟨117 :: w :: x :: y :: z :: rest, offset⟩ = (do
        let c ← secondHalf '\\' ⟨rest, offset + 1 + 4⟩
        let c ← secondHalf 'u' c
        let (second, c) ← fourHexDigits c
        if second < 0xDC00 ∨ 0xDFFF < second then
          throw (c.here .loneSurrogate)
        return (Char.ofNat ((first - 0xD800) * 0x400 + (second - 0xDC00) + 0x10000), c)) := by
  change codeEscape ⟨w :: x :: y :: z :: rest, offset + 1⟩ = _
  unfold codeEscape
  rw [fourHexDigits_eq_ok hexadecimal]
  simp only [bind, Except.bind, pure, Except.pure, lower, upper, if_false]

/-- The second half of a pair fails where another byte than the expected one stands. -/
theorem secondHalf_fails {α : Type} {byte : UInt8} {expected : Char}
    {next : Cursor → Except Fault α} (other : Char.ofNat byte.toNat ≠ expected)
    : ∃ fault, secondHalf expected ⟨byte :: rest, offset⟩ >>= next = .error fault := by
  simp [secondHalf, Cursor.next?, other, bind, Except.bind]

variable {w' x' y' z' : UInt8} {second : Nat}

/-- Two escapes by code that are a surrogate pair. -/
theorem escape_pair (hexadecimal : hexNumber? [w, x, y, z] = some first)
    (lower : ¬(0xDC00 ≤ first ∧ first ≤ 0xDFFF)) (upper : ¬(first < 0xD800 ∨ 0xDBFF < first))
    (hexadecimal' : hexNumber? [w', x', y', z'] = some second)
    (paired : ¬(second < 0xDC00 ∨ 0xDFFF < second))
    : escape ⟨117 :: w :: x :: y :: z :: 92 :: 117 :: w' :: x' :: y' :: z' :: rest, offset⟩
      = .ok (Char.ofNat ((first - 0xD800) * 0x400 + (second - 0xDC00) + 0x10000),
          ⟨rest, offset + 1 + 4 + 1 + 1 + 4⟩) := by
  rw [escape_upper hexadecimal lower upper]
  change (do
    let (second, c) ← fourHexDigits ⟨w' :: x' :: y' :: z' :: rest, offset + 1 + 4 + 1 + 1⟩
    _) = _
  rw [fourHexDigits_eq_ok hexadecimal']
  simp [bind, Except.bind, pure, Except.pure, paired]

/-- Two escapes by code, of which the second one is no second half. -/
theorem escape_unpaired (hexadecimal : hexNumber? [w, x, y, z] = some first)
    (lower : ¬(0xDC00 ≤ first ∧ first ≤ 0xDFFF)) (upper : ¬(first < 0xD800 ∨ 0xDBFF < first))
    (hexadecimal' : hexNumber? [w', x', y', z'] = some second)
    (unpaired : second < 0xDC00 ∨ 0xDFFF < second)
    : outcome (escape
        ⟨117 :: w :: x :: y :: z :: 92 :: 117 :: w' :: x' :: y' :: z' :: rest, offset⟩) = none := by
  rw [escape_upper hexadecimal lower upper]
  change outcome (do
    let (second, c) ← fourHexDigits ⟨w' :: x' :: y' :: z' :: rest, offset + 1 + 4 + 1 + 1⟩
    _) = _
  rw [fourHexDigits_eq_ok hexadecimal']
  simp [bind, Except.bind, throw, throwThe, MonadExceptOf.throw, unpaired, outcome]

end

section

variable {read text : List UInt8} {budget : Nat}

theorem stringBytes_byte {value : UInt8} (plain : 32 ≤ value ∧ value ≠ 34 ∧ value ≠ 92)
    : stringBytes read (budget + 1) ⟨value :: text, offset⟩
      = stringBytes (value :: read) budget ⟨text, offset + 1⟩ := by
  obtain ⟨visible, quote, backslash⟩ := plain
  have control : ¬value < 32 := UInt8.not_lt.mpr visible
  simp [stringBytes, quote, backslash, control, Cursor.advance]

theorem stringBytes_escape {char : Char} {after : Cursor}
    (escaped : escape ⟨text, offset + 1⟩ = .ok (char, after))
    : stringBytes read (budget + 1) ⟨92 :: text, offset⟩
      = stringBytes ((String.utf8EncodeChar char).reverse ++ read) budget after := by
  simp [stringBytes, Cursor.advance, escaped]

theorem stringBytes_fault (fails : outcome (escape ⟨text, offset + 1⟩) = none)
    : outcome (stringBytes read (budget + 1) ⟨92 :: text, offset⟩) = none := by
  obtain ⟨fault, fails⟩ := outcome_eq_none.mp fails
  simp [stringBytes, Cursor.advance, fails, outcome]

end

/-- What is decoded behind a character is put behind its bytes. -/
theorem decoded_behind (read encoded : List UInt8) (others : Option (List UInt8))
    : (others.map fun bytes => ((encoded.reverse ++ read).reverse ++ bytes, rest))
      = (others.map (encoded ++ ·)).map fun bytes => (read.reverse ++ bytes, rest) := by
  cases others <;> simp

/-- A budget for a part and others lasts for the others behind it. -/
theorem budget_behind {part : StringPart} {others : List StringPart} {budget : Nat}
    (enough : (inner (part :: others)).length ≤ budget)
    : ∃ less, budget = less + 1 ∧ (inner others).length ≤ less := by
  have split : (inner (part :: others)).length = part.bytes.length + (inner others).length := by
    simp [StringPart.inner]
  have taken : 0 < part.bytes.length := by cases part <;> simp [bytes]
  exact ⟨budget - 1, by omega, by omega⟩

/-- The bytes of a string up to its closing quote, put behind those already read, by induction on
the parts as they are decoded.
-/
theorem outcome_stringBytes (parts : List StringPart) (read : List UInt8) (budget offset : Nat)
    (enough : (inner parts).length ≤ budget)
    : outcome (stringBytes read (budget + 1) ⟨inner parts ++ 34 :: rest, offset⟩)
      = (decode parts).map fun bytes => (read.reverse ++ bytes, rest) := by
  fun_induction decode parts generalizing read budget offset with
  | case1 => simp [StringPart.inner, stringBytes, outcome, Cursor.advance]
  | case2 value plain others ih =>
      obtain ⟨budget, rfl, left⟩ := budget_behind enough
      refine (congrArg outcome (stringBytes_byte plain)).trans ?_
      exact (ih _ _ _ left).trans (decoded_behind read [value] _)
  | case3 letter known others ih =>
      obtain ⟨budget, rfl, left⟩ := budget_behind enough
      refine (congrArg outcome (stringBytes_escape (escape_letter known))).trans ?_
      exact (ih _ _ _ left).trans (decoded_behind read _ _)
  | case4 w x y z first hexadecimal others lower =>
      exact stringBytes_fault (escape_lower hexadecimal lower)
  | case5 w x y z first hexadecimal others lower single ih =>
      obtain ⟨budget, rfl, left⟩ := budget_behind enough
      refine (congrArg outcome (stringBytes_escape (escape_code hexadecimal lower single))).trans ?_
      exact (ih _ _ _ left).trans (decoded_behind read _ _)
  | case6 w x y z first hexadecimal lower upper w' x' y' z' second hexadecimal' others unpaired =>
      exact stringBytes_fault (escape_unpaired hexadecimal lower upper hexadecimal' unpaired)
  | case7 w x y z first hexadecimal lower upper w' x' y' z' second hexadecimal' others paired char
      ih =>
      obtain ⟨budget, rfl, left⟩ := budget_behind enough
      have left : (inner others).length ≤ budget :=
        (budget_behind left).elim fun _ behind => by omega
      have escaped := @escape_pair (inner others ++ 34 :: rest) (offset + 1) _ _ _ _ _ _ _ _ _ _
        hexadecimal lower upper hexadecimal' paired
      refine (congrArg outcome (stringBytes_escape escaped)).trans ?_
      exact (ih _ _ _ left).trans (decoded_behind read _ _)
  | case8 w x y z first hexadecimal others lower upper alone =>
      have fails : outcome (escape ⟨117 :: w :: x :: y :: z :: (inner others ++ 34 :: rest),
          offset + 1⟩) = none := by
        rw [escape_upper hexadecimal lower upper]
        refine outcome_eq_none.mpr ?_
        cases others with
        | nil => exact secondHalf_fails (by decide)
        | cons part others =>
            cases part with
            | byte value plain => exact secondHalf_fails (char_ne 92 rfl plain.2.2)
            | letter value known =>
                have differs : value ≠ 117 := by
                  rintro rfl
                  simp at known
                change ∃ fault, secondHalf 'u' ⟨value :: _, _⟩ >>= _ = .error fault
                exact secondHalf_fails (char_ne 117 rfl differs)
            | code _ _ _ _ _ hexadecimal' => exact (alone _ _ _ _ _ hexadecimal' _ rfl).elim
      exact stringBytes_fault fails

/-- A string after its opening quote, up to the closing one. -/
theorem reads_stringTail (parts : List StringPart)
    : Reads stringTail (inner parts ++ 34 :: rest) (text? parts) rest := by
  intro offset
  have budget : (inner parts ++ 34 :: rest).length = (inner parts).length + rest.length + 1 := by
    simp only [List.length_append, List.length_cons]
    omega
  unfold stringTail text?
  rw [budget, Option.map_bind]
  refine outcome_bind (outcome_stringBytes parts [] _ offset (by omega)) fun found after => ?_
  rw [Function.comp_apply]
  cases utf8 : Text.ofUtf8 found <;> simp [utf8, outcome, Except.toOption, throw, throwThe,
    MonadExceptOf.throw, pure, Except.pure]

end ComponentCrd.Json
