import Mathlib.Algebra.Group.Nat.Defs
import PrefixCalc.Double.Decimal

/-!
# Rounding to ranks

Rounding a fraction depends on its value alone (`nearest_congr`), so decimals of one
value have one nearest rank (`Decimal.nearestRank_shift`). A magnitude rounds to its
own rank (`nearest_units`). So does the decimal that is found for it, whether or not
one of the short candidates rounds back (`nearestRank_shortest`).
-/

namespace PrefixCalc.Double

/-! ## Fractions of one value -/

/-- A whole number of denominators is rounded to that number. -/
theorem roundHalfEven_mul_self (count : Nat) {denominator : Nat} (positive : 0 < denominator) :
    roundHalfEven (count * denominator) denominator = count := by
  unfold roundHalfEven
  simp only [Nat.mul_mod_left, Nat.mul_div_cancel _ positive, Nat.mul_zero, positive, if_true]

/-- Expanding a fraction does not change the whole number nearest to it. -/
theorem roundHalfEven_mul_mul (numerator denominator : Nat) {factor : Nat} (positive : 0 < factor) :
    roundHalfEven (numerator * factor) (denominator * factor) =
      roundHalfEven numerator denominator := by
  have expand (remainder : Nat) : 2 * (remainder * factor) = 2 * remainder * factor :=
    (Nat.mul_assoc _ _ _).symm
  unfold roundHalfEven
  simp only [Nat.mul_div_mul_right _ _ positive, Nat.mul_mod_mul_right, expand,
    Nat.mul_lt_mul_right positive]

/-- Expanding a fraction does not change the rank nearest to it. -/
theorem nearest_mul_mul (numerator denominator : Nat) {factor : Nat} (positive : 0 < factor) :
    nearest (numerator * factor) (denominator * factor) = nearest numerator denominator := by
  unfold nearest
  simp only [Nat.mul_right_comm _ factor, Nat.mul_div_mul_right _ _ positive,
    roundHalfEven_mul_mul _ _ positive]

/-- Fractions of one value have one nearest rank. -/
theorem nearest_congr {numerator denominator otherNumerator otherDenominator : Nat}
    (positive : 0 < denominator) (otherPositive : 0 < otherDenominator)
    (cross : numerator * otherDenominator = otherNumerator * denominator) :
    nearest numerator denominator = nearest otherNumerator otherDenominator := by
  calc nearest numerator denominator
      = nearest (numerator * otherDenominator) (denominator * otherDenominator) :=
        (nearest_mul_mul _ _ otherPositive).symm
    _ = nearest (otherNumerator * denominator) (otherDenominator * denominator) := by
        rw [cross, Nat.mul_comm denominator]
    _ = nearest otherNumerator otherDenominator := nearest_mul_mul _ _ positive

/-! ## Magnitudes -/

/-- The units that make one are a power of two. -/
theorem unitsPerOne_eq : unitsPerOne = 2 ^ 1074 := by
  decide +kernel

/-- The significand of a rank: its magnitude in steps of its own spacing. -/
def significand (rank : Nat) : Nat :=
  rank - scale rank * ranksPerScale

/-- A magnitude in units is its significand, doubled as often as its scale says. -/
theorem units_eq (rank : Nat) : units rank = significand rank * 2 ^ scale rank := rfl

/-- A rank is made of its scale and its significand, which is below two scales and, above the
lowest scale, not below one. -/
theorem rank_eq (rank : Nat) :
    scale rank * 2 ^ 52 + significand rank = rank ∧ significand rank < 2 ^ 53 ∧
      (scale rank = 0 ∨ 2 ^ 52 ≤ significand rank) := by
  unfold significand scale
  show (rank / 2 ^ 52 - 1) * 2 ^ 52 + (rank - (rank / 2 ^ 52 - 1) * 2 ^ 52) = rank ∧
    rank - (rank / 2 ^ 52 - 1) * 2 ^ 52 < 2 ^ 53 ∧
    (rank / 2 ^ 52 - 1 = 0 ∨ 2 ^ 52 ≤ rank - (rank / 2 ^ 52 - 1) * 2 ^ 52)
  omega

/-- Only the lowest rank has no units. -/
theorem units_eq_zero_iff (rank : Nat) : units rank = 0 ↔ rank = 0 := by
  have parts := rank_eq rank
  have power : 2 ^ scale rank ≠ 0 := Nat.ne_of_gt (Nat.two_pow_pos _)
  rw [units_eq, Nat.mul_eq_zero, or_iff_left power]
  constructor
  · intro none
    rcases parts.2.2 with lowest | large
    · rw [lowest, none] at parts
      omega
    · omega
  · intro zero
    omega

/-- A scale bounds the magnitudes in it. -/
theorem units_lt {rank top : Nat} (bound : scale rank ≤ top) : units rank < 2 ^ (53 + top) := by
  rw [units_eq, Nat.pow_add]
  calc significand rank * 2 ^ scale rank
      < 2 ^ 53 * 2 ^ scale rank :=
        Nat.mul_lt_mul_of_pos_right (rank_eq rank).2.1 (Nat.two_pow_pos _)
    _ ≤ 2 ^ 53 * 2 ^ top := Nat.mul_le_mul_left _ (Nat.pow_le_pow_right (by decide) bound)

/-- The scale of a rank shows in the length of its magnitude. -/
theorem log2_units (rank : Nat) : (units rank).log2 - 52 = scale rank := by
  have parts := rank_eq rank
  by_cases none : units rank = 0
  · have zero := (units_eq_zero_iff rank).mp none
    rw [zero]
    decide
  · rw [units_eq] at none ⊢
    rcases parts.2.2 with lowest | large
    · rw [lowest, Nat.pow_zero, Nat.mul_one] at none ⊢
      have short := (Nat.log2_lt none).mpr parts.2.1
      omega
    · have long : (significand rank * 2 ^ scale rank).log2 = 52 + scale rank := by
        apply (Nat.log2_eq_iff none).mpr
        constructor
        · rw [Nat.pow_add]
          exact Nat.mul_le_mul_right _ large
        · rw [Nat.add_right_comm, Nat.pow_add]
          exact Nat.mul_lt_mul_of_pos_right parts.2.1 (Nat.two_pow_pos _)
      omega

/-- A finite magnitude rounds to its own rank. -/
theorem nearest_units {rank : Nat} (finite : rank < infinityRank) :
    nearest (units rank) unitsPerOne = rank := by
  have positive : 0 < unitsPerOne := by decide +kernel
  have parts := rank_eq rank
  have rounded : roundHalfEven (units rank * unitsPerOne) (unitsPerOne * 2 ^ scale rank) =
      significand rank := by
    rw [units_eq, Nat.mul_assoc, Nat.mul_comm (2 ^ scale rank)]
    exact roundHalfEven_mul_self _ (Nat.mul_pos positive (Nat.two_pow_pos _))
  unfold nearest
  simp only [Nat.mul_div_cancel _ positive, log2_units]
  rw [show Nat.pow 2 (scale rank) = 2 ^ scale rank from rfl, rounded,
    show ranksPerScale = 2 ^ 52 from rfl, parts.1]
  exact Nat.min_eq_left (Nat.le_of_lt finite)

/-! ## Decimals of one value -/

/-- A number has at most as many digits as the power of ten above it has zeros. -/
theorem digitCount_le_iff {number places : Nat} (positive : 0 < places) :
    digitCount number ≤ places ↔ number < 10 ^ places :=
  Nat.length_toDigits_le_iff (by decide) positive

/-- A positive number with zeros written behind it has that many digits more. -/
theorem digitCount_mul_pow {number : Nat} (positive : 0 < number) (zeros : Nat) :
    digitCount (number * 10 ^ zeros) = digitCount number + zeros := by
  unfold digitCount
  induction zeros with
  | zero => rw [Nat.pow_zero, Nat.mul_one, Nat.add_zero]
  | succ zeros ih =>
    have grown : 0 < number * 10 ^ zeros := Nat.mul_pos positive (Nat.pow_pos (by decide))
    have large : 10 ≤ number * 10 ^ zeros * 10 := by omega
    rw [Nat.pow_succ, ← Nat.mul_assoc, Nat.toDigits_of_base_le (by decide) large,
      Nat.mul_div_cancel _ (by decide), List.length_append, ih]
    rfl

namespace Decimal

/-- A decimal with zeros written behind its digits and as many places more. -/
def shift (decimal : Decimal) (zeros : Nat) : Decimal :=
  ⟨decimal.digits * 10 ^ zeros, decimal.exponent - zeros⟩

/-- Zeros behind the digits do not change the rank nearest to a decimal. -/
theorem nearestRank_shift (decimal : Decimal) (zeros : Nat) :
    (decimal.shift zeros).nearestRank = decimal.nearestRank := by
  obtain ⟨digits, exponent⟩ := decimal
  have power (places : Nat) : 0 < 10 ^ places := Nat.pow_pos (by decide)
  by_cases none : digits = 0
  · simp [shift, nearestRank, none]
  · have count := digitCount_mul_pow (Nat.pos_of_ne_zero none) zeros
    have some : digits * 10 ^ zeros ≠ 0 := Nat.mul_ne_zero none (Nat.ne_of_gt (power zeros))
    have magnitude : (digitCount (digits * 10 ^ zeros) : Int) + (exponent - zeros) =
        digitCount digits + exponent := by omega
    have places : zeros + (exponent - zeros).toNat + (-exponent).toNat =
        exponent.toNat + (-(exponent - zeros)).toNat := by omega
    have cross : digits * 10 ^ zeros * 10 ^ (exponent - zeros).toNat * 10 ^ (-exponent).toNat =
        digits * 10 ^ exponent.toNat * 10 ^ (-(exponent - zeros)).toNat := by
      simp only [Nat.mul_assoc, ← Nat.pow_add, ← places, Nat.add_assoc]
    have same := nearest_congr (power _) (power _) cross
    simp only [shift, nearestRank, if_neg none, if_neg some, magnitude]
    rw [show nearest (fraction ⟨digits * 10 ^ zeros, exponent - zeros⟩).1
      (fraction ⟨digits * 10 ^ zeros, exponent - zeros⟩).2 =
        nearest (fraction ⟨digits, exponent⟩).1 (fraction ⟨digits, exponent⟩).2 from same]

/-- A decimal that is neither very large nor very small is rounded as a fraction. -/
theorem nearestRank_of_places {digits places : Nat} (some : digits ≠ 0)
    (notHuge : digitCount digits ≤ 310 + places) (notTiny : places ≤ digitCount digits + 330) :
    nearestRank ⟨digits, -places⟩ = nearest digits (10 ^ places) := by
  have top : ¬ 310 < (digitCount digits : Int) + -places := by omega
  have bottom : ¬ (digitCount digits : Int) + -places < -330 := by omega
  have whole : (-(places : Int)).toNat = 0 := by omega
  have fraction : (- -(places : Int)).toNat = places := by omega
  simp only [nearestRank, Decimal.fraction, if_neg some, if_neg top, if_neg bottom, whole, fraction]
  rw [Nat.pow_eq, Nat.pow_eq, Nat.pow_zero, Nat.mul_one]

end Decimal

/-! ## The decimal found for a rank -/

/-- Halves are fives of tenths. -/
theorem nearest_mul_five_pow (count places : Nat) :
    nearest (count * 5 ^ places) (10 ^ places) = nearest count (2 ^ places) := by
  apply nearest_congr (Nat.pow_pos (by decide)) (Nat.two_pow_pos places)
  rw [Nat.mul_assoc, ← Nat.mul_pow]

/-- The exact decimal of a finite rank has at most 310 digits before the point. -/
theorem digitCount_exactDecimal_le {rank : Nat} (finite : rank < infinityRank) :
    digitCount (units rank * 5 ^ 1074) ≤ 310 + 1074 := by
  have scaleBound : scale rank ≤ 2045 := by
    have parts := rank_eq rank
    have bound : rank < 2047 * 2 ^ 52 := finite
    omega
  rw [digitCount_le_iff (by decide)]
  have below : units rank * 5 ^ 1074 < 2 ^ (53 + 2045) * 5 ^ 1074 :=
    Nat.mul_lt_mul_of_pos_right (units_lt scaleBound) (by decide +kernel)
  have power : 2 ^ (53 + 2045) * 5 ^ 1074 ≤ 10 ^ (310 + 1074) := by decide +kernel
  exact Nat.lt_of_lt_of_le below power

/-- The exact decimal of a rank above zero has at most 330 zeros behind the point. -/
theorem le_digitCount_exactDecimal {rank : Nat} (positive : 0 < units rank) :
    1074 ≤ digitCount (units rank * 5 ^ 1074) + 330 := by
  by_cases short : digitCount (units rank * 5 ^ 1074) ≤ 743
  · rw [digitCount_le_iff (by decide)] at short
    have power : 10 ^ 743 ≤ 5 ^ 1074 := by decide +kernel
    have grown : 5 ^ 1074 ≤ units rank * 5 ^ 1074 := Nat.le_mul_of_pos_left _ positive
    have long : 10 ^ 743 ≤ units rank * 5 ^ 1074 := Nat.le_trans power grown
    exact absurd long (Nat.not_le_of_lt short)
  · omega

/-- The exact decimal of a finite rank rounds to the rank. -/
theorem nearestRank_exactDecimal {rank : Nat} (finite : rank < infinityRank) :
    (exactDecimal rank).nearestRank = rank := by
  by_cases none : units rank = 0
  · rw [(units_eq_zero_iff rank).mp none]
    decide +kernel
  · have positive : 0 < units rank := Nat.pos_of_ne_zero none
    have some : units rank * 5 ^ 1074 ≠ 0 := Nat.mul_ne_zero none (by decide +kernel)
    have rounded := Decimal.nearestRank_of_places some (digitCount_exactDecimal_le finite)
      (le_digitCount_exactDecimal positive)
    rw [nearest_mul_five_pow, ← unitsPerOne_eq, nearest_units finite] at rounded
    rw [exactDecimal, show Nat.pow 5 1074 = 5 ^ 1074 by decide +kernel]
    exact rounded

/-- The decimal found for a finite rank rounds to the rank. -/
theorem nearestRank_shortest {rank : Nat} (finite : rank < infinityRank) :
    (shortest rank).nearestRank = rank := by
  unfold shortest
  dsimp only
  generalize candidates : List.flatMap _ (List.range 17) = decimals
  cases found : decimals.find? fun decimal => decimal.nearestRank == rank with
  | none => exact nearestRank_exactDecimal finite
  | some decimal =>
    have rounds := List.find?_some found
    exact beq_iff_eq.mp rounds

end PrefixCalc.Double
