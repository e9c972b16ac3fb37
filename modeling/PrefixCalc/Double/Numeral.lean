import PrefixCalc.Double.Decimal
import PrefixCalc.Text.Blank
import PrefixCalc.Text.Digit

/-!
# Numerals

A numeral is a sign, if any, and then `inf`, `infinity` or `nan` in any letter
case, or digits with at most one point among them and an exponent, if any, after
them. Digits may be of any script, single low lines may stand between digits, and
blanks around the numeral are ignored. `Numeral.value` is the nearest double.
-/

namespace PrefixCalc.Double

/-- What a numeral denotes, before rounding. -/
inductive Numeral where
  /-- No number at all. -/
  | nan
  /-- An infinity. -/
  | infinite (negative : Bool)
  /-- A signed decimal. -/
  | decimal (negative : Bool) (magnitude : Decimal)
deriving DecidableEq, Repr

namespace Numeral

/-- The double that a numeral denotes. -/
def value : Numeral → Float
  | .nan => Double.nan
  | .infinite negative => ofRank negative infinityRank
  | .decimal negative magnitude => ofRank negative magnitude.nearestRank

/-- The plain form of a character in a numeral: a digit of any script becomes the common digit and a
blank outside ASCII the space. Other characters outside ASCII occur in no numeral. -/
def plain? (character : Char) : Option Char :=
  if character.toNat < 0x7F then some character
  else if Text.isBlank character then some ' '
  else (Text.digitValue? character).map Nat.digitChar

/-- Drop the low lines of a text if each of them stands between two digits. -/
def joinDigits? (before : Char) : List Char → Option (List Char)
  | [] => some []
  | '_' :: after :: rest =>
    if before.isDigit && after.isDigit then (joinDigits? after rest).map (after :: ·) else none
  | '_' :: [] => none
  | character :: rest => (joinDigits? character rest).map (character :: ·)

/-- Split off a sign; `true` is the minus. -/
def splitSign : List Char → Bool × List Char
  | '-' :: rest => (true, rest)
  | '+' :: rest => (false, rest)
  | text => (false, text)

/-- The number that some digits spell. -/
def digitsValue (digits : List Char) : Nat :=
  Nat.ofDigitChars 10 digits 0

/-- The exponent part that ends a numeral, which may be missing. -/
def exponent? : List Char → Option Int
  | [] => some 0
  | mark :: rest =>
    let (negative, digits) := splitSign rest
    if (mark == 'e' || mark == 'E') && !digits.isEmpty && digits.all Char.isDigit then
      some (if negative then -(digitsValue digits : Int) else digitsValue digits)
    else none

/-- The digits after the point, if there is one, and the text behind them. -/
def splitFraction : List Char → List Char × List Char
  | '.' :: rest => (rest.takeWhile Char.isDigit, rest.dropWhile Char.isDigit)
  | text => ([], text)

/-- Read digits, a point and an exponent. -/
def decimal? (text : List Char) : Option Decimal :=
  let whole := text.takeWhile Char.isDigit
  let (fraction, rest) := splitFraction (text.dropWhile Char.isDigit)
  let digits := whole ++ fraction
  if digits.isEmpty then none
  else (exponent? rest).map fun exponent => ⟨digitsValue digits, exponent - fraction.length⟩

/-- Read a numeral in plain characters. -/
def ofPlain? (text : List Char) : Option Numeral :=
  let (negative, body) := splitSign text
  let word := String.ofList (body.map Char.toLower)
  if word == "inf" || word == "infinity" then some (.infinite negative)
  else if word == "nan" then some .nan
  else (decimal? body).map (.decimal negative ·)

/-- Read a numeral. -/
def ofText? (text : List Char) : Option Numeral := do
  let plain ← text.mapM plain?
  ofPlain? (← joinDigits? ' ' (Text.trimWhile Text.isLayout plain))

end Numeral

end PrefixCalc.Double
