import ComponentCrd.SortedDistinct

/-! Labels of domains in ASCII letters, digits and dashes alone: the ASCII characters of the
label, and behind a dash the steps by which the others are inserted, as numbers in digits of base
36.

The state of an insertion is the code point and the place to insert it at; states are counted
through all places of a code point before the next code point. A step is the number of states
passed over.
-/

namespace ComponentCrd.Domain.Punycode

/-! ### Digits -/

/-- The letters and the ten digits as digits. -/
def digit (value : Nat) : Char :=
  if value < 26 then Char.ofNat (97 + value) else Char.ofNat (48 + (value - 26))

/-- The value of a digit, in either case. -/
def digitValue? (c : Char) : Option Nat :=
  if 'a' ≤ c ∧ c ≤ 'z' then some (c.toNat - 97)
  else if 'A' ≤ c ∧ c ≤ 'Z' then some (c.toNat - 65)
  else if c.isDigit then some (c.toNat - 48 + 26)
  else none

/-- The least value of a digit that is not the last of its number, for the place of the digit
counted from zero and the bias.
-/
def threshold (bias place : Nat) : Nat := max 1 (min 26 (36 * (place + 1) - bias))

theorem threshold_pos (bias place : Nat) : 1 ≤ threshold bias place := by
  unfold threshold
  omega

/-- Divides a step by 35 as often as it is too large, and adds 36 each time. -/
def scaled (step bias : Nat) : Nat :=
  if 455 < step then scaled (step / 35) (bias + 36) else bias + 36 * step / (step + 38)
termination_by step
decreasing_by exact Nat.div_lt_self (by omega) (by omega)

/-- The bias behind a step, for the number of characters that then stand. -/
def nextBias (step count : Nat) (isFirst : Bool) : Nat :=
  let step := if isFirst then step / 700 else step / 2
  scaled (step + step / count) 0

/-- The bias of the first step. -/
def firstBias : Nat := 72

/-- The first code point that is inserted. -/
def firstCode : Nat := 0x80

/-! ### Encoding -/

/-- The digits of a number from a place on, the least significant first. -/
def digits (bias place number : Nat) : List Char :=
  let t := threshold bias place
  if number < t then
    [digit number]
  else
    digit (t + (number - t) % (36 - t)) :: digits bias (place + 1) ((number - t) / (36 - t))
termination_by number
decreasing_by
  have := threshold_pos bias place
  exact Nat.lt_of_le_of_lt (Nat.div_le_self _ _) (by omega)

/-- The places at which a code point stands in a text, each as the number of characters in front
of it that are inserted before it.
-/
def places (code : Nat) (text : List Nat) : List Nat :=
  (text.zipIdx.filter (·.1 == code)).map fun (_, i) => ((text.take i).filter (· ≤ code)).length

/-- The insertions of a text in order: the code points and their places. -/
def insertions (text : List Nat) : List (Nat × Nat) :=
  let codes := sortedDistinct compare (text.filter (firstCode ≤ ·))
  codes.flatMap fun code => (places code text).map (code, ·)

/-- The digits of the steps from the state of a code point and a place through insertions, for the
number of characters that stand.
-/
def stepDigits (code place count bias : Nat) (isFirst : Bool) : List (Nat × Nat) → List Char
  | [] => []
  | (nextCode, nextPlace) :: rest =>
      let step := (nextCode - code) * (count + 1) + nextPlace - place
      digits bias 0 step ++ stepDigits nextCode (nextPlace + 1) (count + 1)
        (nextBias step (count + 1) isFirst) false rest

/-- The encoded form of a label, without a mark in front. -/
def encode (text : List Char) : List Char :=
  let basic := text.filter fun c => c.toNat < firstCode
  let inserted := insertions (text.map Char.toNat)
  let extended := stepDigits firstCode 0 basic.length firstBias true inserted
  if basic.isEmpty then extended else basic ++ '-' :: extended

/-! ### Decoding -/

/-- The number at the beginning of a text and the rest of the text, which is shorter. -/
def number? (bias : Nat) : Nat → List Char → Option (Nat × List Char)
  | _, [] => none
  | place, c :: rest => do
      let value ← digitValue? c
      let t := threshold bias place
      if value < t then
        return (value, rest)
      else
        let (higher, rest) ← number? bias (place + 1) rest
        return (value + higher * (36 - t), rest)

theorem number?_length {bias : Nat} : ∀ {place : Nat} {text : List Char} {found : Nat × List Char},
    number? bias place text = some found → found.2.length < text.length
  | _, [], _, h => by simp [number?] at h
  | place, c :: rest, found, h => by
      rw [number?] at h
      cases hv : digitValue? c with
      | none => simp [hv] at h
      | some value =>
          simp only [hv, Option.bind_eq_bind, Option.bind_some] at h
          split at h
          · cases h; simp
          · cases hn : number? bias (place + 1) rest with
            | none => simp [hn] at h
            | some inner =>
                have := number?_length hn
                simp only [hn, Option.bind_some, Option.pure_def, Option.some.injEq] at h
                subst h
                simp only [List.length_cons]
                omega

/-- Inserts characters by the steps that digits stand for, from the state of a code point and a
place on.
-/
def insertSteps (code place bias : Nat) (isFirst : Bool) (standing : List Char)
    (text : List Char) : Option (List Char) :=
  if text.isEmpty then
    some standing
  else
    match h : number? bias 0 text with
    | none => none
    | some (step, rest) =>
        let count := standing.length + 1
        let nextCode := code + (place + step) / count
        let nextPlace := (place + step) % count
        if nextCode.isValidChar then
          insertSteps nextCode (nextPlace + 1) (nextBias step count isFirst) false
            (standing.insertIdx nextPlace (Char.ofNat nextCode)) rest
        else
          none
termination_by text.length
decreasing_by exact number?_length h

/-- The ASCII characters in front of the last dash, unless that comes first, and what is behind
it.
-/
def splitBasic (text : List Char) : List Char × List Char :=
  let (behind, before) := text.reverse.span (· != '-')
  match before with
  | _ :: c :: rest => ((c :: rest).reverse, behind.reverse)
  | _ => ([], text)

/-- The label that an encoded form without its mark stands for. -/
def decode? (text : List Char) : Option (List Char) :=
  let (basic, extended) := splitBasic text
  insertSteps firstCode 0 firstBias true basic extended

end ComponentCrd.Domain.Punycode
