import PrefixCalc.Double.Decimal

/-!
# The text of a double

A double is written with the fewest digits that read back as the same double, all
places filled and never with an exponent. A fraction does not end in zero, and
zero keeps its sign.
-/

namespace PrefixCalc.Double

/-- A fraction's digits behind a point; nothing if they are all zeros. -/
def writeFraction (digits : List Char) : List Char :=
  match (digits.reverse.dropWhile (· == '0')).reverse with
  | [] => []
  | kept => '.' :: kept

/-- A decimal with all its places and no exponent. -/
def Decimal.write (decimal : Decimal) : List Char :=
  let digits := Nat.toDigits 10 decimal.digits
  let places := (-decimal.exponent).toNat
  if places < digits.length then
    digits.take (digits.length - places) ++ List.replicate decimal.exponent.toNat '0' ++
      writeFraction (digits.drop (digits.length - places))
  else '0' :: writeFraction (List.replicate (places - digits.length) '0' ++ digits)

/-- The text of a magnitude: the shortest decimal, or `inf`. -/
def writeMagnitude (rank : Nat) : List Char :=
  if rank < infinityRank then (shortest rank).write else "inf".toList

/-- The text of a double. -/
def write (x : Float) : String :=
  if x.isNaN then "NaN"
  else String.ofList ((if isNegative x then ['-'] else []) ++ writeMagnitude (rank x))

end PrefixCalc.Double
