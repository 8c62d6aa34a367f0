import ComponentCrd.Json.ShortestDecimal
import Mathlib.Data.List.TakeWhile

/-! The form of the texts of doubles: digits and a point, or digits and an exponent. What it takes
is that the shortest decimal of a magnitude above zero has digits.
-/

namespace ComponentCrd

-----------------------------------------------------------------------------------------
-- The digits of the shortest decimal
-----------------------------------------------------------------------------------------

namespace Decimal

theorem lt_ten_of_mem_digitsOf {n digit : Nat} (member : digit ∈ digitsOf n) : digit < 10 := by
  have go (n : Nat) (found : List Nat) (all : ∀ digit ∈ found, digit < 10)
      : ∀ digit ∈ digitsOf.go n found, digit < 10 := by
    induction n using Nat.strongRecOn generalizing found with
    | ind n ih =>
        rw [digitsOf.go]
        split
        · exact all
        · refine ih (n / 10) (by omega) _ ?_
          simp only [List.forall_mem_cons]
          exact ⟨Nat.mod_lt n (by decide), all⟩
  exact go n [] (by simp) digit member

/-- A number above zero has a digit above zero. -/
theorem exists_mem_digitsOf {n : Nat} (positive : n ≠ 0) : ∃ digit ∈ digitsOf n, digit ≠ 0 := by
  have keeps (n : Nat) (found : List Nat) : ∀ digit ∈ found, digit ∈ digitsOf.go n found := by
    induction n using Nat.strongRecOn generalizing found with
    | ind n ih =>
        intro digit member
        rw [digitsOf.go]
        split
        · exact member
        · exact ih (n / 10) (by omega) _ digit (.tail _ member)
  have go (n : Nat) (found : List Nat) (positive : n ≠ 0)
      : ∃ digit ∈ digitsOf.go n found, digit ≠ 0 := by
    induction n using Nat.strongRecOn generalizing found with
    | ind n ih =>
        rw [digitsOf.go, if_neg positive]
        by_cases last : n / 10 = 0
        · exact ⟨n % 10, keeps _ _ _ (.head _), by omega⟩
        · exact ih (n / 10) (by omega) _ last
  exact go n [] positive

theorem mem_of_mem_withoutTrailingZeros {digits : List Nat} {digit : Nat}
    (member : digit ∈ withoutTrailingZeros digits)
    : digit ∈ digits := by
  rw [withoutTrailingZeros, List.mem_reverse] at member
  exact List.mem_reverse.mp ((List.dropWhile_sublist _).subset member)

theorem withoutTrailingZeros_ne_nil {digits : List Nat} (significant : ∃ digit ∈ digits, digit ≠ 0)
    : withoutTrailingZeros digits ≠ [] := by
  obtain ⟨digit, member, positive⟩ := significant
  rw [withoutTrailingZeros, Ne, List.reverse_eq_nil_iff, List.dropWhile_eq_nil_iff]
  intro zeros
  have zero := zeros digit (List.mem_reverse.mpr member)
  exact positive (by simpa using zero)

/-- Zero does not read back as a magnitude above it. -/
theorem not_readsBack_zero {m : Magnitude} (positive : m ≠ Magnitude.zero) (power : Int)
    : readsBack m 0 power = false := by
  have zero : (gridPoint 0 power).1 = 0 := by
    unfold gridPoint
    split
    · simp
    · rfl
  have rounded : Magnitude.round? (gridPoint 0 power).1 (gridPoint 0 power).2 = some .zero := by
    rw [Magnitude.round?, zero]
    exact if_pos (.inl rfl)
  simp only [readsBack, rounded]
  simpa using Ne.symm positive

/-- A point of a grid that is chosen reads back. -/
theorem readsBack_of_onGrid? {m : Magnitude} {point power : Int} {width count : Nat}
    (chosen : onGrid? m point width = some (count, power))
    : readsBack m count power := by
  unfold onGrid? at chosen
  generalize m.quotient = quotient at chosen
  obtain ⟨num, den⟩ := quotient
  dsimp only at chosen
  generalize (if 0 ≤ point - (width : Int) then num
    else num * Nat.pow 10 (-(point - (width : Int))).toNat) = scaledNum at chosen
  generalize (if 0 ≤ point - (width : Int) then den * Nat.pow 10 (point - (width : Int)).toNat
    else den) = scaledDen at chosen
  split at chosen
  · next low high =>
      split at chosen
      · obtain ⟨rfl, rfl⟩ := Prod.mk.inj (Option.some.inj chosen)
        exact low
      · obtain ⟨rfl, rfl⟩ := Prod.mk.inj (Option.some.inj chosen)
        exact high
  · next low _ =>
      obtain ⟨rfl, rfl⟩ := Prod.mk.inj (Option.some.inj chosen)
      exact low
  · next _ high =>
      obtain ⟨rfl, rfl⟩ := Prod.mk.inj (Option.some.inj chosen)
      exact high
  · cases chosen

theorem lt_ten_of_mem_shortest {m : Magnitude} {digit : Nat} (member : digit ∈ (shortest m).digits)
    : digit < 10 := by
  simp only [shortest] at member
  generalize m.quotient = quotient at member
  exact lt_ten_of_mem_digitsOf (mem_of_mem_withoutTrailingZeros member)

/-- The shortest decimal of a magnitude above zero has digits, or its point is at the beginning.
-/
theorem shortest_digits {m : Magnitude} (positive : m ≠ Magnitude.zero)
    : (shortest m).digits ≠ [] ∨ (shortest m).point = 0 := by
  simp only [shortest]
  generalize m.quotient = quotient
  cases found
    : ((List.range 17).map (· + 1)).findSome? (onGrid? m (pointOf quotient.1 quotient.2)) with
  | some chosen =>
      obtain ⟨count, power⟩ := chosen
      obtain ⟨width, _, onGrid⟩ := List.exists_of_findSome?_eq_some found
      have nonzero : count ≠ 0 := by
        rintro rfl
        exact nomatch (readsBack_of_onGrid? onGrid).symm.trans (not_readsBack_zero positive power)
      exact .inl (withoutTrailingZeros_ne_nil (exists_mem_digitsOf nonzero))
  | none =>
      by_cases nonzero : quotient.1 / quotient.2 = 0
      · exact .inr (by simp [nonzero, digitsOf, digitsOf.go])
      · exact .inl (withoutTrailingZeros_ne_nil (exists_mem_digitsOf nonzero))

end Decimal

-----------------------------------------------------------------------------------------
-- Texts of doubles
-----------------------------------------------------------------------------------------

/-- The texts of doubles without a sign. -/
inductive FloatText : List Char → Prop
  | point {whole fraction : List Char} (present : whole ≠ []) (digits : ∀ c ∈ whole, c.isDigit)
    (others : ∀ c ∈ fraction, c.isDigit)
    : FloatText (whole ++ '.' :: fraction)
  | exponent {whole fraction power : List Char} {sign : Char} (present : whole ≠ [])
    (digits : ∀ c ∈ whole, c.isDigit)
    (others : fraction = [] ∨ ∃ rest, fraction = '.' :: rest ∧ ∀ c ∈ rest, c.isDigit)
    (signed : sign = '-' ∨ sign = '+') (nonempty : power ≠ []) (tens : ∀ c ∈ power, c.isDigit)
    : FloatText (whole ++ fraction ++ 'e' :: sign :: power)

namespace Decimal

theorem isDigit_of_mem_digitChars {digits : List Nat} (small : ∀ digit ∈ digits, digit < 10)
    {c : Char} (member : c ∈ digitChars digits)
    : c.isDigit := by
  obtain ⟨digit, inside, rfl⟩ := List.mem_map.mp member
  simpa using small digit inside

theorem isDigit_of_mem_zeros {count : Nat} {c : Char} (member : c ∈ List.replicate count '0')
    : c.isDigit := by
  rw [List.eq_of_mem_replicate member]
  decide

/-- A decimal with digits, or with the point at the beginning, is written like a double. -/
theorem floatText_chars {d : Decimal} (small : ∀ digit ∈ d.digits, digit < 10)
    (proper : d.digits ≠ [] ∨ d.point = 0)
    : FloatText d.chars := by
  have isDigit {c : Char} (member : c ∈ digitChars d.digits) : c.isDigit :=
    isDigit_of_mem_digitChars small member
  have nonempty (nonzero : d.point ≠ 0) : digitChars d.digits ≠ [] := by
    simpa [digitChars] using proper.resolve_right nonzero
  simp only [chars]
  split
  · next range =>
      have present := nonempty (by omega)
      split
      · refine .point (by simp [present]) ?_ (by simp)
        intro c member
        rcases List.mem_append.mp member with own | zero
        · exact isDigit own
        · exact isDigit_of_mem_zeros zero
      · next longer =>
          refine .point ?_ (fun c member => isDigit (List.mem_of_mem_take member))
            fun c member => isDigit (List.mem_of_mem_drop member)
          have : d.point.toNat ≠ 0 := by omega
          simp [present, this]
  · split
    · refine .point (show ['0'] ≠ [] by decide) (by simp) ?_
      intro c member
      rcases List.mem_append.mp member with zero | own
      · exact isDigit_of_mem_zeros zero
      · exact isDigit own
    · next outside =>
        have present := nonempty (by omega)
        refine .exponent (by simp [present])
          (fun c member => isDigit (List.mem_of_mem_take member)) ?_ ?_ ?_ ?_
        · split
          · exact .inl rfl
          · exact .inr ⟨_, rfl, fun c member => isDigit (List.mem_of_mem_drop member)⟩
        · split
          · exact .inl rfl
          · exact .inr rfl
        · simp
        · intro c member
          rw [Nat.toString_eq_repr, Nat.toList_repr] at member
          exact Nat.isDigit_of_mem_toDigits (by decide) (by decide) member

end Decimal

/-- The text of a double is one of a float, behind its sign. -/
theorem Binary64.chars_eq (x : Binary64)
    : ∃ text, FloatText text ∧ x.chars = if x.negative then '-' :: text else text := by
  refine ⟨_, ?_, rfl⟩
  split
  · exact .point (show ['0'] ≠ [] by decide) (by simp) (by simp)
  · next positive =>
      exact Decimal.floatText_chars (fun digit => Decimal.lt_ten_of_mem_shortest)
        (Decimal.shortest_digits positive)

end ComponentCrd
