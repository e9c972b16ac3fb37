import PrefixCalc.Text.CodePoint

/-!
# Blank characters

A word ends at a blank. The blanks are the characters of the Unicode whitespace
property together with the four separators U+001C to U+001F. `trim` takes them
off both ends of a text.
-/

namespace PrefixCalc.Text

/-- The code points of the blanks, in order. -/
def blankRanges : List (Nat × Nat) :=
  [(0x09, 0x0D), (0x1C, 0x20), (0x85, 0x85), (0xA0, 0xA0), (0x1680, 0x1680), (0x2000, 0x200A),
   (0x2028, 0x2029), (0x202F, 0x202F), (0x205F, 0x205F), (0x3000, 0x3000)]

/-- Whether a character separates words. -/
def isBlank (character : Char) : Bool :=
  inRanges blankRanges character

/-- Whether a character is a blank of plain layout: a space, a tab, a line feed, a vertical tab, a
form feed or a carriage return. -/
def isLayout (character : Char) : Bool :=
  character == ' ' || ('\t' ≤ character && character ≤ '\r')

/-- Drop the longest ending whose characters all satisfy `p`. -/
def dropEndWhile (p : Char → Bool) (text : List Char) : List Char :=
  (text.reverse.dropWhile p).reverse

/-- A text without the characters of `p` at its two ends. -/
def trimWhile (p : Char → Bool) (text : List Char) : List Char :=
  dropEndWhile p (text.dropWhile p)

/-- A text without the blanks at its two ends. -/
def trim (text : String) : String :=
  String.ofList (trimWhile isBlank text.toList)

end PrefixCalc.Text
