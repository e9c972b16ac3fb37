/-!
# Ranges of code points

Properties of characters are tables of inclusive ranges of code points.
-/

namespace PrefixCalc.Text

/-- Whether a character's code point lies in one of the inclusive ranges. -/
def inRanges (ranges : List (Nat × Nat)) (character : Char) : Bool :=
  ranges.any fun range => range.1 ≤ character.toNat && character.toNat ≤ range.2

end PrefixCalc.Text
