import PrefixCalc.Double.Rank

/-!
# Operations on doubles

The operations beyond the basic ones. Remainders and the roundings to whole
numbers are exact and are computed in units. No operation fails: where there is no
answer the result is a NaN, and where it is too large, an infinity.
-/

namespace PrefixCalc.Double

/-- A whole number with a sign; a zero result has no sign. -/
def ofWhole (negative : Bool) (magnitude : Nat) : Float :=
  ofRank (negative && magnitude != 0) (nearest magnitude 1)

/-- Apply a rounding to a whole number. It is given the sign, the whole part and the rest in units.
Doubles that are not finite stay as they are. -/
def roundBy (rounding : Bool → Nat → Nat → Float) (x : Float) : Float :=
  if isFinite x then
    let count := units (rank x)
    rounding (isNegative x) (count / unitsPerOne) (count % unitsPerOne)
  else x

/-- The whole number next to `x` on the side of zero. -/
def truncate : Float → Float :=
  roundBy fun negative whole _ => ofWhole negative whole

/-- The least whole number that is not below `x`. -/
def ceiling : Float → Float :=
  roundBy fun negative whole rest =>
    ofWhole negative (if !negative && rest != 0 then whole + 1 else whole)

/-- The greatest whole number that is not above `x`. -/
def floor : Float → Float :=
  roundBy fun negative whole rest =>
    ofWhole negative (if negative && rest != 0 then whole + 1 else whole)

/-- The whole number nearest to `x`; a half goes away from zero, and the sign stays. -/
def round : Float → Float :=
  roundBy fun negative whole rest =>
    ofRank negative (nearest (if unitsPerOne ≤ 2 * rest then whole + 1 else whole) 1)

/-- What truncation takes off `x`, with the sign of `x`; a NaN if `x` is not finite. -/
def fraction (x : Float) : Float :=
  if isFinite x then
    ofRank (isNegative x) (nearestUnits (units (rank x) % unitsPerOne))
  else nan

/-- The remainder of the division that truncates, with the sign of the dividend. -/
def remainder (dividend divisor : Float) : Float :=
  if dividend.isNaN || divisor.isNaN || !isFinite dividend || rank divisor == 0 then nan
  else if !isFinite divisor then dividend
  else ofRank (isNegative dividend) (nearestUnits (units (rank dividend) % units (rank divisor)))

/-- A power. Zero to a negative power is the positive infinity for both zeros. -/
def power (base exponent : Float) : Float :=
  if base == 0 && exponent < 0 then infinity else Float.pow base exponent

/-- The larger of two doubles, the first if neither is; a NaN gives way. -/
def maximum (x y : Float) : Float :=
  if x.isNaN then y else if y.isNaN then x else if x < y then y else x

/-- The smaller of two doubles, the first if neither is; a NaN gives way. -/
def minimum (x y : Float) : Float :=
  if x.isNaN then y else if y.isNaN then x else if y < x then y else x

/-- One with the sign of `x`; a NaN stays. -/
def signum (x : Float) : Float :=
  if x.isNaN then x else withSign (isNegative x) 1

end PrefixCalc.Double
