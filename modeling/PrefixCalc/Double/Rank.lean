/-!
# Doubles by sign and rank

The magnitudes of the binary64 doubles, in order, are numbered from zero: that
number is the magnitude's *rank*, and it is the double's bit pattern without the
sign bit. A finite magnitude is a whole number of *units* of 2⁻¹⁰⁷⁴, the least
positive double, so exact arithmetic on doubles is arithmetic on natural numbers:
`units` reads a rank, and `nearest` finds the rank nearest to a fraction.
-/

namespace PrefixCalc.Double

/-- How many units make one. -/
def unitsPerOne : Nat := Nat.pow 2 1074

/-- How many ranks share a spacing of units. -/
def ranksPerScale : Nat := Nat.pow 2 52

/-- The rank of infinity, just above the ranks of the finite magnitudes. -/
def infinityRank : Nat := 2047 * ranksPerScale

/-- How often the spacing of the doubles has doubled at a rank. -/
def scale (rank : Nat) : Nat :=
  rank / ranksPerScale - 1

/-- The magnitude of a finite rank in units. -/
def units (rank : Nat) : Nat :=
  (rank - scale rank * ranksPerScale) * Nat.pow 2 (scale rank)

/-- The whole number nearest to a fraction; a tie goes to the even one. -/
def roundHalfEven (numerator denominator : Nat) : Nat :=
  let quotient := numerator / denominator
  let remainder := numerator % denominator
  if 2 * remainder < denominator then quotient
  else if denominator < 2 * remainder then quotient + 1
  else quotient + quotient % 2

/-- The rank nearest to a fraction; a tie goes to the even rank, and what rounds beyond the largest
finite magnitude is infinite. -/
def nearest (numerator denominator : Nat) : Nat :=
  let wanted := numerator * unitsPerOne
  let shift := (wanted / denominator).log2 - 52
  min (shift * ranksPerScale + roundHalfEven wanted (denominator * Nat.pow 2 shift)) infinityRank

/-- The rank nearest to a number of units. -/
def nearestUnits (count : Nat) : Nat :=
  nearest count unitsPerOne

/-- The rank of a double's magnitude; a NaN ranks above infinity. -/
def rank (x : Float) : Nat :=
  x.toBits.toNat % Nat.pow 2 63

/-- Whether a double carries the negative sign; zeros and infinities have signs too. -/
def isNegative (x : Float) : Bool :=
  Nat.pow 2 63 ≤ x.toBits.toNat

/-- The double with a sign and a rank. -/
def ofRank (negative : Bool) (rank : Nat) : Float :=
  Float.ofBits (UInt64.ofNat (if negative then Nat.pow 2 63 + rank else rank))

/-- Whether a double is neither infinite nor a NaN. -/
def isFinite (x : Float) : Bool :=
  rank x < infinityRank

/-- The positive infinity. -/
def infinity : Float :=
  ofRank false infinityRank

/-- The double that is not a number. -/
def nan : Float :=
  ofRank false (infinityRank + ranksPerScale / 2)

/-- The double with the magnitude of `x` and a given sign. -/
def withSign (negative : Bool) (x : Float) : Float :=
  ofRank negative (rank x)

end PrefixCalc.Double
