import PrefixCalc.Functions
import PrefixCalc.Variables

/-!
# Environments

An environment is what one call frame sees: its own variables and the functions
that all frames share. `listing` shows both tables as text.
-/

namespace PrefixCalc

/-- The variables of one frame and the functions of all. -/
structure Environment where
  /-- The frame's own variables. -/
  locals : Variables := ∅
  /-- The functions of all frames. -/
  functions : Functions := ∅

namespace Environment

/-- How many names there are. -/
def size (environment : Environment) : Nat :=
  environment.locals.size + environment.functions.size

/-- Whether there are no names. -/
def isEmpty (environment : Environment) : Bool :=
  environment.locals.isEmpty && environment.functions.isEmpty

/-- The lines of both tables; a table without names has none. -/
def blocks (environment : Environment) : List (List String) :=
  (if environment.locals.isEmpty then [] else [environment.locals.listing]) ++
    if environment.functions.isEmpty then [] else [environment.functions.listing]

/-- Both tables as text, a blank line between them. -/
def listing (environment : Environment) : String :=
  "\n\n".intercalate (environment.blocks.map ("\n".intercalate ·))

end Environment

/-- Frames that share their functions; each has variables of its own. -/
structure Frames where
  /-- The functions of all frames. -/
  functions : Functions := ∅
  /-- The variables of each frame, oldest frame first. -/
  locals : Array Variables := #[∅]

namespace Frames

/-- The one frame that sees an environment. -/
def ofEnvironment (environment : Environment) : Frames :=
  ⟨environment.functions, #[environment.locals]⟩

/-- What a frame sees; a frame that does not exist sees no variables. -/
def environment (frames : Frames) (index : Nat) : Environment :=
  ⟨frames.locals.getD index ∅, frames.functions⟩

/-- The frames after one of them changed its environment. -/
def update (frames : Frames) (index : Nat) (environment : Environment) : Frames :=
  ⟨environment.functions, frames.locals.setIfInBounds index environment.locals⟩

/-- The frames with a new one that has no variables yet. -/
def addFrame (frames : Frames) : Frames :=
  { frames with locals := frames.locals.push ∅ }

end Frames

end PrefixCalc
