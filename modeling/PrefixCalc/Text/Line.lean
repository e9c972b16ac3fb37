import PrefixCalc.Text.Blank

/-!
# Lines and the pieces of a line

A text falls into lines at every line break, and a line into pieces at every
semicolon. Input is read with one kind of line end: `unifyLineEnds` makes a
carriage return, with or without a line feed after it, one line feed.
-/

namespace PrefixCalc.Text

/-- The code points that end a line; a carriage return takes a line feed after it along. -/
def lineBreakRanges : List (Nat × Nat) :=
  [(0x0A, 0x0D), (0x1C, 0x1E), (0x85, 0x85), (0x2028, 0x2029)]

/-- Whether a character ends a line. -/
def isLineBreak (character : Char) : Bool :=
  inRanges lineBreakRanges character

/-- Put a character at the start of the first line. -/
def consFirstLine (character : Char) : List (List Char) → List (List Char)
  | [] => [[character]]
  | line :: rest => (character :: line) :: rest

/-- The lines of a text without their ends; a last line end opens no further line. -/
def splitLines : List Char → List (List Char)
  | [] => []
  | '\r' :: '\n' :: rest => [] :: splitLines rest
  | character :: rest =>
    if isLineBreak character then [] :: splitLines rest
    else consFirstLine character (splitLines rest)

/-- The parts between the separators, empty parts included; there is always at least one. -/
def splitAt (separator : Char) : List Char → List (List Char)
  | [] => [[]]
  | character :: rest =>
    if character = separator then [] :: splitAt separator rest
    else consFirstLine character (splitAt separator rest)

/-- One line feed for every carriage return, with or without a line feed after it. -/
def unifyLineEnds : List Char → List Char
  | [] => []
  | '\r' :: '\n' :: rest => '\n' :: unifyLineEnds rest
  | '\r' :: rest => '\n' :: unifyLineEnds rest
  | character :: rest => character :: unifyLineEnds rest

/-- The lines of a text. -/
def lines (text : String) : List String :=
  (splitLines text.toList).map String.ofList

/-- The expressions of a line: what stands between semicolons, trimmed, where anything is left. -/
def pieces (line : String) : List String :=
  (((splitAt ';' line.toList).map (trimWhile isBlank)).filter fun piece => !piece.isEmpty).map
    String.ofList

end PrefixCalc.Text
