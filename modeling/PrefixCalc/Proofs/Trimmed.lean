import PrefixCalc.Text.Line
import PrefixCalc.Token.Scan

/-!
# Trimmed texts

The pieces of a line are trimmed, so none ends in a blank (`unpadded_of_mem_pieces`).
A line without semicolons is one piece, or none if it is blank (`pieces_of_not_mem_trim`).
The last segment of such a text is a word, and a refused blank always has a word
behind it that can be reported (`scan_ne_strayBlank`).
-/

namespace PrefixCalc

namespace Text

/-- Whether a text does not end in a blank. -/
def Unpadded (text : List Char) : Prop :=
  ∀ character, text.getLast? = some character → isBlank character = false

/-- A trimmed text does not end in a blank. -/
theorem unpadded_trimWhile (text : List Char) : Unpadded (trimWhile isBlank text) := by
  intro character last
  rw [trimWhile, dropEndWhile, List.getLast?_reverse] at last
  have stopped := List.head?_dropWhile_not isBlank (text.dropWhile isBlank).reverse
  rw [last] at stopped
  exact stopped

/-- No piece of a line ends in a blank. -/
theorem unpadded_of_mem_pieces {line piece : String} (inside : piece ∈ pieces line) :
    Unpadded piece.toList := by
  obtain ⟨letters, kept, rfl⟩ := List.mem_map.mp inside
  obtain ⟨part, -, rfl⟩ := List.mem_map.mp (List.mem_filter.mp kept).1
  rw [String.toList_ofList]
  exact unpadded_trimWhile part

/-- Dropping from the front takes nothing away that it does not look for. -/
theorem mem_dropWhile {p : Char → Bool} {text : List Char} {character : Char}
    (inside : character ∈ text) (kept : p character = false) : character ∈ text.dropWhile p := by
  rw [← List.takeWhile_append_dropWhile (p := p) (l := text), List.mem_append] at inside
  refine inside.resolve_left fun dropped => ?_
  have taken := List.all_eq_true.mp List.all_takeWhile character dropped
  rw [kept] at taken
  cases taken

/-- Trimming takes nothing away that it does not look for. -/
theorem mem_trimWhile {p : Char → Bool} {text : List Char} {character : Char}
    (inside : character ∈ text) (kept : p character = false) : character ∈ trimWhile p text := by
  rw [trimWhile, dropEndWhile, List.mem_reverse]
  exact mem_dropWhile (List.mem_reverse.mpr (mem_dropWhile inside kept)) kept

/-- A text without separators is one part. -/
theorem splitAt_of_not_mem {separator : Char} {text : List Char} (absent : separator ∉ text) :
    splitAt separator text = [text] := by
  induction text with
  | nil => rfl
  | cons first rest ih =>
    rw [List.mem_cons, not_or] at absent
    rw [splitAt, if_neg (Ne.symm absent.1), ih absent.2]
    rfl

/-- A line without semicolons is one piece, or none if it is blank. -/
theorem pieces_of_not_mem_trim {line : String} (absent : ';' ∉ (trim line).toList) :
    pieces line = if (trim line).isEmpty then [] else [trim line] := by
  have whole : splitAt ';' line.toList = [line.toList] := by
    refine splitAt_of_not_mem fun inside => absent ?_
    rw [trim, String.toList_ofList]
    exact mem_trimWhile inside rfl
  unfold pieces trim
  rw [whole, List.map_singleton]
  cases trimWhile isBlank line.toList with
  | nil => rfl
  | cons first rest => simp

/-- A blank line has no pieces. -/
theorem pieces_of_blank {line : String} (blank : (trim line).isEmpty = true) :
    pieces line = [] := by
  rw [pieces_of_not_mem_trim, if_pos blank]
  simp [String.isEmpty_iff.mp blank]

/-- Adding a letter in front adds no blank. -/
theorem mem_of_blank_mem_consLetter {letter character : Char} {parts : List Segment}
    (inside : .blank character ∈ consLetter letter parts) : .blank character ∈ parts := by
  unfold consLetter at inside
  split at inside
  · exact List.mem_cons_of_mem _ ((List.mem_cons.mp inside).resolve_left nofun)
  · exact (List.mem_cons.mp inside).resolve_left nofun

/-- The blanks among the segments of a text are blanks. -/
theorem isBlank_of_mem_segments {text : List Char} {character : Char}
    (inside : .blank character ∈ segments text) : isBlank character = true := by
  induction text with
  | nil => cases inside
  | cons first rest ih =>
    unfold segments at inside
    split at inside
    · rename_i blank
      rcases List.mem_cons.mp inside with same | later
      · cases same
        exact blank
      · exact ih later
    · exact ih (mem_of_blank_mem_consLetter inside)

/-- If a text does not end in a blank its last segment is none. -/
theorem Unpadded.getLast?_segments {text : List Char} (unpadded : Unpadded text)
    (character : Char) : (segments text).getLast? ≠ some (.blank character) := by
  intro last
  obtain ⟨before, split⟩ := List.getLast?_eq_some_iff.mp last
  have inside : .blank character ∈ segments text := by simp [split]
  have blank := isBlank_of_mem_segments inside
  have spelled : text = flatten before ++ [character] := by
    rw [← flatten_segments text, split]
    simp [flatten, Segment.characters]
  have letter := unpadded character (by simp [spelled])
  rw [letter] at blank
  cases blank

/-- Behind a blank with no word after it the segments end in a blank. -/
theorem exists_getLast?_of_firstWord?_eq_none {parts : List Segment} (character : Char)
    (none : firstWord? parts = none) :
    ∃ last, (Segment.blank character :: parts).getLast? = some (.blank last) := by
  induction parts generalizing character with
  | nil => exact ⟨character, rfl⟩
  | cons part rest ih =>
    cases part with
    | blank next =>
      obtain ⟨last, ends⟩ := ih next none
      exact ⟨last, by rw [List.getLast?_cons_cons, ends]⟩
    | word letters => cases none

end Text

namespace Token

/-- Segments that do not end in a blank have no blank without a word to report. -/
theorem ofSegments_ne_strayBlank {column : Nat} {parts : List Text.Segment}
    (unpadded : ∀ character, parts.getLast? ≠ some (.blank character)) :
    ofSegments column parts ≠ .error .strayBlank := by
  have shorter : ∀ {part rest}, (∀ character, (part :: rest).getLast? ≠ some (.blank character)) →
      ∀ character, rest.getLast? ≠ some (Text.Segment.blank character) := by
    intro part rest whole character last
    exact whole character (by rw [List.getLast?_cons, last]; rfl)
  fun_induction ofSegments column parts with
  | case1 column => exact nofun
  | case2 column character rest layout ih => exact ih (shorter unpadded)
  | case3 column character rest refused =>
    intro failed
    unfold blankError at failed
    split at failed
    · cases failed
    · rename_i none
      obtain ⟨last, ends⟩ := Text.exists_getLast?_of_firstWord?_eq_none character none
      exact unpadded last ends
  | case4 column letters rest word => exact nofun
  | case5 column letters rest word kind known =>
    rename_i ih
    intro failed
    cases later : ofSegments (column + letters.length) rest with
    | ok tokens =>
      rw [later] at failed
      cases failed
    | error error =>
      rw [later] at failed
      cases failed
      exact ih (shorter unpadded) later

/-- A text that does not end in a blank has no blank without a word to report. -/
theorem scan_ne_strayBlank {text : String} (unpadded : Text.Unpadded text.toList) :
    scan text ≠ .error .strayBlank :=
  ofSegments_ne_strayBlank unpadded.getLast?_segments

end Token

end PrefixCalc
