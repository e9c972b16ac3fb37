import PrefixCalc.Double.Rank

/-!
# Decimals and their nearest doubles

A decimal is a whole number of digits and a power of ten. `Decimal.nearestRank`
rounds it to a double; `shortest` goes back and finds the decimal of fewest digits
that rounds to a given rank.
-/

namespace PrefixCalc.Double

/-- The number `digits · 10 ^ exponent`. -/
structure Decimal where
  /-- The digits, as a whole number. -/
  digits : Nat
  /-- The power of ten that the digits count. -/
  exponent : Int
deriving DecidableEq, Repr

/-- How many decimal digits a whole number has; zero has one. -/
def digitCount (number : Nat) : Nat :=
  (Nat.toDigits 10 number).length

namespace Decimal

/-- A decimal as a fraction: numerator and denominator. -/
def fraction (decimal : Decimal) : Nat × Nat :=
  (decimal.digits * Nat.pow 10 decimal.exponent.toNat, Nat.pow 10 (-decimal.exponent).toNat)

/-- The rank nearest to a decimal. Decimals of 10³¹⁰ and more are infinite and those below 10⁻³³⁰
are zero, whatever their digits, so that no larger power of ten is ever formed. -/
def nearestRank (decimal : Decimal) : Nat :=
  let magnitude := digitCount decimal.digits + decimal.exponent
  if decimal.digits = 0 then 0
  else if 310 < magnitude then infinityRank
  else if magnitude < -330 then 0
  else nearest decimal.fraction.1 decimal.fraction.2

end Decimal

/-- The magnitude of a rank, written out to its last digit. -/
def exactDecimal (rank : Nat) : Decimal :=
  ⟨units rank * Nat.pow 5 1074, -1074⟩

/-- The least power of ten above a positive number of units. -/
def decimalMagnitude (count : Nat) : Int :=
  if unitsPerOne ≤ count then digitCount (count / unitsPerOne)
  else 1 - digitCount ((unitsPerOne - 1) / count)

/-- The two decimals with a given exponent next to a number of units, below and above, the nearer
one first; of two that are as near, the one with even digits. -/
def neighbours (count : Nat) (exponent : Int) : List Decimal :=
  let numerator := count * Nat.pow 10 (-exponent).toNat
  let denominator := unitsPerOne * Nat.pow 10 exponent.toNat
  let below := numerator / denominator
  let remainder := numerator % denominator
  let belowFirst :=
    2 * remainder < denominator || (2 * remainder == denominator && below % 2 == 0)
  if belowFirst then [⟨below, exponent⟩, ⟨below + 1, exponent⟩]
  else [⟨below + 1, exponent⟩, ⟨below, exponent⟩]

/-- The decimal of fewest digits that rounds to a finite rank; of those, the one nearest to it.
Seventeen digits are always enough, and the exact decimal stands behind them. -/
def shortest (rank : Nat) : Decimal :=
  let count := units rank
  let candidates := (List.range 17).flatMap fun (index : Nat) =>
    neighbours count (decimalMagnitude count - (index + 1))
  (candidates.find? fun decimal => decimal.nearestRank == rank).getD (exactDecimal rank)

end PrefixCalc.Double
