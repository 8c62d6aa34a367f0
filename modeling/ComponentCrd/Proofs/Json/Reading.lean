import ComponentCrd.Proofs.Cuts
import ComponentCrd.Proofs.Json.Trees

/-! What readers make of the bytes in front of them. Where the bytes stand in a text shows in faults
only, so results and remaining bytes are stated without it. Bytes are read up to where a token or a
blank ends; what follows matters by its first byte at most.
-/

namespace ComponentCrd.Json

variable {α β : Type}

-----------------------------------------------------------------------------------------
-- Outcomes
-----------------------------------------------------------------------------------------

/-- What is read and the bytes behind it, if nothing is wrong. -/
def outcome : Except Fault (α × Cursor) → Option (α × List UInt8)
  | .ok (result, c) => some (result, c.rest)
  | .error _ => none

/-- The bytes that are left, if nothing is wrong. -/
def passed : Except Fault Cursor → Option (List UInt8)
  | .ok c => some c.rest
  | .error _ => none

section

variable {step : Except Fault (α × Cursor)} {pass : Except Fault Cursor} {rest : List UInt8}

theorem outcome_eq_some {result : α}
    : outcome step = some (result, rest) ↔ ∃ offset, step = .ok (result, ⟨rest, offset⟩) := by
  constructor
  · intro reads
    match step, reads with
    | .ok (_, ⟨_, offset⟩), rfl => exact ⟨offset, rfl⟩
  · rintro ⟨_, rfl⟩
    rfl

theorem outcome_eq_none : outcome step = none ↔ ∃ fault, step = .error fault := by
  cases step with
  | ok found => simp [outcome]
  | error fault => simp [outcome]

theorem passed_eq_some : passed pass = some rest ↔ ∃ offset, pass = .ok ⟨rest, offset⟩ := by
  constructor
  · intro passes
    match pass, passes with
    | .ok ⟨_, offset⟩, rfl => exact ⟨offset, rfl⟩
  · rintro ⟨_, rfl⟩
    rfl

/-- A second step reads on where the first one stops. -/
theorem outcome_bind {found : Option α} {next : α × Cursor → Except Fault (β × Cursor)}
    {later : α → Option (β × List UInt8)} (first : outcome step = found.map (·, rest))
    (second : ∀ result offset, outcome (next (result, ⟨rest, offset⟩)) = later result)
    : outcome (step >>= next) = found.bind later := by
  cases found with
  | none =>
      obtain ⟨_, rfl⟩ := outcome_eq_none.mp first
      rfl
  | some result =>
      obtain ⟨offset, rfl⟩ := outcome_eq_some.mp first
      exact second result offset

/-- A second step reads on behind a first one that is known to succeed. -/
theorem outcome_then {result : α} {next : α × Cursor → Except Fault (β × Cursor)}
    {later : Option (β × List UInt8)} (first : outcome step = some (result, rest))
    (second : ∀ offset, outcome (next (result, ⟨rest, offset⟩)) = later)
    : outcome (step >>= next) = later := by
  obtain ⟨offset, rfl⟩ := outcome_eq_some.mp first
  exact second offset

/-- A step reads on where the bytes before it end. -/
theorem outcome_passed {next : Cursor → Except Fault (β × Cursor)} {later : Option (β × List UInt8)}
    (first : passed pass = some rest) (second : ∀ offset, outcome (next ⟨rest, offset⟩) = later)
    : outcome (pass >>= next) = later := by
  obtain ⟨offset, rfl⟩ := passed_eq_some.mp first
  exact second offset

theorem passed_bind {next : Cursor → Except Fault Cursor} {later : Option (List UInt8)}
    (first : passed pass = some rest) (second : ∀ offset, passed (next ⟨rest, offset⟩) = later)
    : passed (pass >>= next) = later := by
  obtain ⟨offset, rfl⟩ := passed_eq_some.mp first
  exact second offset

theorem outcome_map {found : Option α} {turn : α × Cursor → β × Cursor} {finish : α → β}
    (first : outcome step = found.map (·, rest))
    (turns : ∀ result offset, turn (result, ⟨rest, offset⟩) = (finish result, ⟨rest, offset⟩))
    : outcome (step.map turn) = (found.map finish).map (·, rest) := by
  cases found with
  | none =>
      obtain ⟨_, rfl⟩ := outcome_eq_none.mp first
      rfl
  | some result =>
      obtain ⟨offset, rfl⟩ := outcome_eq_some.mp first
      simp [Except.map, outcome, turns]

end

theorem blank_nil : Blank [] := by simp [Blank]

/-- What a reader makes of bytes, wherever they stand: its result, and the bytes behind it. -/
def Reads (read : Decoder α) (text : List UInt8) (result : Option α) (rest : List UInt8) : Prop :=
  ∀ offset, outcome (read ⟨text, offset⟩) = result.map (·, rest)

-----------------------------------------------------------------------------------------
-- Bytes as characters
-----------------------------------------------------------------------------------------

theorem toNat_char (byte : UInt8) : (Char.ofNat byte.toNat).toNat = byte.toNat := by
  have small := byte.toNat_lt
  have valid : byte.toNat.isValidChar := .inl (by omega)
  unfold Char.ofNat
  rw [dif_pos valid]
  rfl

/-- Another byte is another character. -/
theorem char_ne (other : UInt8) {byte : UInt8} {char : Char} (is : Char.ofNat other.toNat = char)
    (differs : byte ≠ other)
    : Char.ofNat byte.toNat ≠ char := by
  rintro rfl
  refine differs (UInt8.toNat_inj.mp ?_)
  rw [← toNat_char byte, ← is, toNat_char other]

theorem isDigitByte_iff {byte : UInt8}
    : isDigitByte byte ↔ 48 ≤ byte.toNat ∧ byte.toNat ≤ 57 := by
  rw [← toNat_char byte]
  simp [isDigitByte, Char.isDigit, UInt32.le_iff_toNat_le]

-----------------------------------------------------------------------------------------
-- Blanks, colons, and words
-----------------------------------------------------------------------------------------

namespace Cursor

variable {before rest : List UInt8} {offset : Nat}

/-- A blank is none of the bytes that a token begins with. -/
def Visible (byte : UInt8) : Prop := isBlank (Char.ofNat byte.toNat) = false

instance (byte : UInt8) : Decidable (Visible byte) := inferInstanceAs (Decidable (_ = _))

theorem skipWhile_append {test : Char → Bool}
    (all : ∀ byte ∈ before, test (Char.ofNat byte.toNat))
    (stops : rest.head?.all fun byte => !test (Char.ofNat byte.toNat))
    : (⟨before ++ rest, offset⟩ : Cursor).skipWhile test = ⟨rest, offset + before.length⟩ := by
  have cut := (cut_append rest all stops).1
  simp [skipWhile, advance, cut]

/-- Blanks are skipped up to the next visible byte. -/
theorem blanks_append {byte : UInt8} (blank : Blank before) (visible : Visible byte)
    : (⟨before ++ byte :: rest, offset⟩ : Cursor).blanks
      = ⟨byte :: rest, offset + before.length⟩ :=
  skipWhile_append blank (by simpa [Visible] using visible)

theorem blanks_cons {byte : UInt8} (visible : Visible byte)
    : (⟨byte :: rest, offset⟩ : Cursor).blanks = ⟨byte :: rest, offset⟩ :=
  @blanks_append [] rest offset byte blank_nil visible

theorem advance_one {byte : UInt8}
    : (⟨byte :: rest, offset⟩ : Cursor).advance 1 = ⟨rest, offset + 1⟩ := rfl

theorem peek?_cons {byte : UInt8}
    : (⟨byte :: rest, offset⟩ : Cursor).peek? = some (Char.ofNat byte.toNat) := rfl

theorem next?_cons {byte : UInt8}
    : (⟨byte :: rest, offset⟩ : Cursor).next?
      = some (Char.ofNat byte.toNat, ⟨rest, offset + 1⟩) := rfl

/-- A colon with blanks around it is passed, up to blanks behind it. -/
theorem passed_colon {text : List UInt8} (around : Around 58 text)
    : ∃ after, Blank after ∧ ∀ rest offset,
        passed (⟨text ++ rest, offset⟩ : Cursor).colon = some (after ++ rest) := by
  obtain ⟨before, after, blankBefore, blankAfter, rfl⟩ := around
  refine ⟨after, blankAfter, fun rest offset => ?_⟩
  rw [List.append_assoc, List.cons_append]
  unfold colon
  rw [blanks_append blankBefore (by decide)]
  rfl

end Cursor

end ComponentCrd.Json
