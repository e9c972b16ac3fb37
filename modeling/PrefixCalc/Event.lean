import PrefixCalc.ParseError
import PrefixCalc.Trace

/-!
# Events

What happens while texts are read and expressions run, in order. Events become
lines of one of two outputs: results and printed values on the first, failures and,
if asked for, traces on the second.
-/

namespace PrefixCalc

/-- What happened. -/
inductive Event where
  /-- A program printed a value. -/
  | printed (value : Value)
  /-- An expression was evaluated. -/
  | result (value : Value)
  /-- The value of the last expression was asked for. -/
  | lastValue (value : Value)
  /-- The environment was asked for. -/
  | listing (text : String)
  /-- Batch mode was switched. -/
  | batchMode (on : Bool)
  /-- A text was no expression. -/
  | parseFailure (error : ParseError)
  /-- An evaluation failed. -/
  | evalFailure (fault : Fault)
  /-- A trace. -/
  | trace (trace : Trace)

/-- The line on the first output, if the event has one. -/
def Event.outLine? : Event → Option String
  | .printed value | .result value | .lastValue value => some value.text
  | .listing text => some text
  | .batchMode true => some "batch mode on"
  | .batchMode false => some "batch mode off"
  | .parseFailure _ | .evalFailure _ | .trace _ => none

/-- The line on the second output, if the event has one; traces have one on demand. -/
def Event.errLine? (traces : Bool) : Event → Option String
  | .parseFailure error => some ("ParseError: " ++ error.message)
  | .evalFailure fault => some ("EvalError: " ++ fault.message)
  | .trace step => if traces then some step.line else none
  | _ => none

/-- Lines as a text, each with its end. -/
def unlines (lines : List String) : String :=
  String.join (lines.map (· ++ "\n"))

/-- What some events write on the first output. -/
def outText (events : List Event) : String :=
  unlines (events.filterMap Event.outLine?)

/-- What some events write on the second output. -/
def errText (traces : Bool) (events : List Event) : String :=
  unlines (events.filterMap (Event.errLine? traces))

end PrefixCalc
