import PrefixCalc.Parser
import PrefixCalc.Trace

/-!
# Reading texts

Texts come one after another. Each is added to the tokens that wait, and they are
read as one expression, which must take all of them. While they are a function
definition that has not come to its end they are held back instead.
-/

namespace PrefixCalc

/-- What reading a text gave. -/
structure Reading where
  /-- The expression, or nothing if the tokens are held back. -/
  outcome : Except Stop (Option Expr)
  /-- The tokens that wait from now on. -/
  pending : Buffer
  /-- The traces left on the way. -/
  traces : List Trace

namespace Reading

/-- Read one expression that takes the whole buffer, and drop all tokens if it cannot be read. The
error for tokens left over quotes `text`. -/
def ofBuffer (budget : Nat) (buffer : Buffer) (text : String) :
    Except Stop (Option Expr) × Buffer :=
  match Parser.expr budget buffer with
  | .ok expr [] => (.ok (some expr), [])
  | .ok _ (_ :: _) => (.error (.refused (.leftover text)), [])
  | .error (.refused error) _ => (.error (.refused error), [])
  | .error (.escaped escape) rest => (.error (.escaped escape), rest)

/-- Read the waiting tokens, the last `added` of them new, as one expression, or hold them back
while they await the end of a definition. -/
def ofWaiting (budget added : Nat) (buffer : Buffer) (text : String) : Reading :=
  let scanned := Trace.scanned added buffer.length
  if Buffer.awaitsEnd buffer then ⟨.ok none, buffer, [scanned, .heldBack]⟩
  else
    let (outcome, rest) := ofBuffer budget buffer text
    ⟨outcome, rest, [scanned]⟩

/-- What is made of a text that cannot be scanned; a word without a kind drops all tokens. -/
def ofScanError (pending : Buffer) : ScanError → Reading
  | .invalidWord word => ⟨.error (.refused (.invalidWord word)), [], []⟩
  | .strayBlank => ⟨.error (.escaped .strayBlank), pending, []⟩

/-- Add a text to the waiting tokens and read them. -/
def ofText (budget : Nat) (pending : Buffer) (text : String) : Reading :=
  match Buffer.take text pending with
  | .ok () buffer => ofWaiting budget (buffer.length - pending.length) buffer text
  | .error error buffer => ofScanError buffer error

/-- The tokens of a text that can be scanned are read behind those that wait. -/
theorem ofText_of_ok {text : String} {tokens : List Token} (scanned : Token.scan text = .ok tokens)
    (budget : Nat) (pending : Buffer) :
    ofText budget pending text = ofWaiting budget tokens.length (pending ++ tokens) text := by
  rw [ofText, Buffer.take_of_ok scanned]
  dsimp only
  rw [List.length_append, Nat.add_sub_cancel_left]

/-- A text that cannot be scanned is answered with its error. -/
theorem ofText_of_error {text : String} {error : ScanError}
    (failed : Token.scan text = .error error) (budget : Nat) (pending : Buffer) :
    ofText budget pending text = ofScanError pending error := by
  rw [ofText, Buffer.take_of_error failed]

end Reading

end PrefixCalc
