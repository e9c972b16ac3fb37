import PrefixCalc.Token.Scan

/-!
# Token buffers

The tokens that wait to be read, oldest first. A text is added as a whole or not
at all.
-/

namespace PrefixCalc

/-- The tokens that wait to be read, oldest first. -/
abbrev Buffer := List Token

namespace Buffer

/-- Add the tokens of a text at the end. -/
def addText (buffer : Buffer) (text : String) : Except ScanError Buffer := do
  return buffer ++ (← Token.scan text)

/-- Take a text in; if it cannot be scanned, the tokens that wait stay as they are. -/
def take (text : String) : EStateM ScanError Buffer Unit := do
  set (← MonadExcept.ofExcept ((← get).addText text))

/-- A text that can be scanned adds its tokens. -/
theorem take_of_ok {text : String} {tokens : List Token} (scanned : Token.scan text = .ok tokens)
    (buffer : Buffer) : take text buffer = .ok () (buffer ++ tokens) := by
  have added : buffer.addText text = .ok (buffer ++ tokens) := by
    rw [addText, scanned]
    rfl
  change (MonadExcept.ofExcept (buffer.addText text) >>= set : EStateM _ _ _) buffer = _
  rw [added]
  rfl

/-- A text that cannot be scanned leaves the waiting tokens as they are. -/
theorem take_of_error {text : String} {error : ScanError} (failed : Token.scan text = .error error)
    (buffer : Buffer) : take text buffer = .error error buffer := by
  have refused : buffer.addText text = .error error := by
    rw [addText, failed]
    rfl
  change (MonadExcept.ofExcept (buffer.addText text) >>= set : EStateM _ _ _) buffer = _
  rw [refused]
  rfl

/-- Whether the first token is of a kind. -/
def startsWith (buffer : Buffer) (kind : Kind) : Bool :=
  buffer.head?.any fun token => token.kind == kind

/-- Whether the last token is of a kind. -/
def endsWith (buffer : Buffer) (kind : Kind) : Bool :=
  buffer.getLast?.any fun token => token.kind == kind

/-- Whether any token is of a kind. -/
def hasKind (buffer : Buffer) (kind : Kind) : Bool :=
  buffer.any fun token => token.kind == kind

/-- Whether the tokens open a function definition and do not end it yet. -/
def awaitsEnd (buffer : Buffer) : Bool :=
  buffer.startsWith .function && !buffer.endsWith .endMark

end Buffer

end PrefixCalc
