import PrefixCalc.Text.Segment
import PrefixCalc.Token

/-!
# The tokens of a text

`scan` turns every word of a text into a token. Only the blanks of plain layout
may stand between words; the others are refused. The leftmost offence decides the
error, and a text with an offence has no tokens at all.
-/

namespace PrefixCalc

/-- Why a text has no tokens. -/
inductive ScanError where
  /-- This word has no kind, or stands behind a blank that is refused. -/
  | invalidWord (word : String)
  /-- A blank that is refused, with no word behind it. -/
  | strayBlank
deriving DecidableEq, Repr

namespace Token

/-- The column behind a blank that stands at `column`. -/
def columnAfter (column : Nat) (blank : Char) : Nat :=
  if blank = '\n' then 1 else column + 1

/-- The error at a refused blank, given what follows it. -/
def blankError (rest : List Text.Segment) : ScanError :=
  match Text.firstWord? rest with
  | some word => .invalidWord (String.ofList word)
  | none => .strayBlank

/-- The tokens of some segments, the first of which starts at `column`. -/
def ofSegments (column : Nat) : List Text.Segment → Except ScanError (List Token)
  | [] => .ok []
  | .blank character :: rest =>
    if Text.isLayout character then ofSegments (columnAfter column character) rest
    else .error (blankError rest)
  | .word letters :: rest =>
    let word := String.ofList letters
    match Kind.ofWord? word with
    | none => .error (.invalidWord word)
    | some kind => do
      let tokens ← ofSegments (column + letters.length) rest
      return ⟨kind, word, column⟩ :: tokens

/-- The tokens of a text. -/
def scan (text : String) : Except ScanError (List Token) :=
  ofSegments 1 (Text.segments text.toList)

end Token

end PrefixCalc
