import PrefixCalc.Text.Blank

/-!
# Blanks and words

Every text is in one way a list of segments: single blanks, and words, which are
as long as they can be. Nothing is lost, since `flatten (segments text) = text`.
-/

namespace PrefixCalc.Text

/-- A part of a text: one blank, or a whole word. -/
inductive Segment where
  /-- A character that stands between words. -/
  | blank (character : Char)
  /-- A longest run of characters that are not blanks. -/
  | word (letters : List Char)
deriving DecidableEq, Repr

/-- Put a character that is not a blank before the segments that follow it. -/
def consLetter (letter : Char) : List Segment → List Segment
  | .word letters :: rest => .word (letter :: letters) :: rest
  | rest => .word [letter] :: rest

/-- The segments of a text, from left to right. -/
def segments : List Char → List Segment
  | [] => []
  | character :: rest =>
    if isBlank character then .blank character :: segments rest
    else consLetter character (segments rest)

/-- The first word among some segments. -/
def firstWord? : List Segment → Option (List Char)
  | [] => none
  | .blank _ :: rest => firstWord? rest
  | .word letters :: _ => some letters

/-- The characters of a segment. -/
def Segment.characters : Segment → List Char
  | .blank character => [character]
  | .word letters => letters

/-- The text that some segments spell. -/
def flatten (parts : List Segment) : List Char :=
  parts.flatMap Segment.characters

/-- Adding a letter in front of the segments adds it in front of their text. -/
theorem flatten_consLetter (letter : Char) (parts : List Segment) :
    flatten (consLetter letter parts) = letter :: flatten parts := by
  unfold consLetter
  split <;> simp [flatten, Segment.characters]

/-- A text is spelled by its segments. -/
theorem flatten_segments (text : List Char) : flatten (segments text) = text := by
  induction text with
  | nil => rfl
  | cons character rest ih =>
    unfold segments
    split
    · simpa [flatten, Segment.characters] using ih
    · rw [flatten_consLetter, ih]

end PrefixCalc.Text
