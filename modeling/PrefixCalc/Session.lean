import PrefixCalc.Eval
import PrefixCalc.Reading
import PrefixCalc.Text.Line

/-!
# Sessions

A session reads lines. A line is a command or a list of expressions with
semicolons between them. The first failure ends a line, and a text of several
lines too. The value of each expression is kept in the variable `last`.
-/

namespace PrefixCalc

/-- How deep expressions may nest. -/
structure Limits where
  /-- When they are read. -/
  reading : Nat := Parser.nestingLimit
  /-- When they are evaluated, calls included. -/
  evaluating : Nat := Eval.nestingLimit

/-- The state of a session. -/
structure Session where
  /-- Whether results are kept silent. -/
  batch : Bool := false
  /-- The tokens of an unfinished definition. -/
  pending : Buffer := []
  /-- The variables and functions. -/
  environment : Environment := {}
  /-- What has happened so far. -/
  events : Array Event := #[]
  /-- How deep the expressions that it is given may nest. -/
  limits : Limits := {}

namespace Session

/-- A step of a session; an escape leaves the state as it was reached. -/
abbrev Step := EStateM Escape Session

/-- The variable that keeps the value of the last expression. -/
def lastName : String := "last"

/-- The environment of a new session: `last` is zero and there is nothing else. -/
def freshEnvironment : Environment :=
  { locals := ⟨[(lastName, .number 0)]⟩ }

/-- A new session. -/
def start (batch : Bool) : Session :=
  { batch, environment := freshEnvironment }

/-- Whether a definition is unfinished. -/
def isPending (session : Session) : Bool :=
  !session.pending.isEmpty

/-- Note events. -/
def emit (events : List Event) : Step Unit :=
  modify fun session => { session with events := session.events ++ events }

/-- Forget all variables and functions; an unfinished definition stays. -/
def reset : Step Unit :=
  modify fun session => { session with environment := freshEnvironment }

/-- A command to the session itself. -/
inductive Command where
  /-- Show the environment. -/
  | environment
  /-- Forget it. -/
  | reset
  /-- Switch batch mode. -/
  | batch
  /-- Show the value of the last expression. -/
  | last
deriving DecidableEq, Repr

/-- The command that a trimmed line is. -/
def Command.ofLine? (line : String) : Option Command :=
  if line = ":env" then some .environment
  else if line = ":reset" then some .reset
  else if line = ":batch" then some .batch
  else if line = ":last" then some .last
  else none

/-- Carry out a command. -/
def perform : Command → Step Unit
  | .environment => do emit [.listing (← get).environment.listing]
  | .reset => reset
  | .batch => do
    modify fun session => { session with batch := !session.batch }
    emit [.batchMode (← get).batch]
  | .last => do
    match (← get).environment.locals.get lastName with
    | .ok value => emit [.lastValue value]
    | .error fault => throw (.fault fault)

/-- Carry out the command that a line is; `false` if it is none. -/
def obey (line : String) : Step Bool := do
  match Command.ofLine? (Text.trim line) with
  | some command =>
    perform command
    return true
  | none => return false

/-- Read a text after the waiting tokens; what comes of it, parse errors included. -/
def read (text : String) : Step (Except ParseError (Option Expr)) := do
  let reading := Reading.ofText (← get).limits.reading (← get).pending text
  modify fun session => { session with pending := reading.pending }
  emit (reading.traces.map .trace)
  match reading.outcome with
  | .ok expr? => return .ok expr?
  | .error (.refused error) => return .error error
  | .error (.escaped escape) => throw escape

/-- Evaluate an expression in the session's environment; what comes of it, faults included. -/
def evaluate (code : Expr) : Step (Except Fault Value) := fun session =>
  let back (run : Run) : Session :=
    { session with environment := run.environment, events := run.events }
  match Eval.expr session.limits.evaluating code ⟨session.environment, session.events⟩ with
  | .ok value run => .ok (.ok value) (back run)
  | .error fault run => .ok (.error fault) (back run)

/-- Keep a value as the last one. -/
def keepLast (value : Value) : Step Unit := do
  match (← get).environment.locals.assign lastName value with
  | .ok locals =>
    modify fun session =>
      { session with environment := { session.environment with locals } }
  | .error fault => throw (.fault fault)

/-- Show a result, unless in batch mode, and keep it. -/
def conclude (value : Value) : Step Unit := do
  unless (← get).batch do emit [.result value]
  keepLast value

/-- Read and evaluate one expression; `false` if either fails. A text that is held back does not
fail. -/
def submitExpr (text : String) : Step Bool := do
  match ← read text with
  | .error error =>
    emit [.parseFailure error]
    return false
  | .ok none => return true
  | .ok (some code) =>
    match ← evaluate code with
    | .error fault =>
      emit [.evalFailure fault]
      return false
    | .ok value =>
      conclude value
      return true

/-- Take the items in order while they succeed; `false` at the first that fails. -/
def allOf {α : Type} (step : α → Step Bool) : List α → Step Bool
  | [] => return true
  | first :: rest => do
    if ← step first then allOf step rest else return false

/-- Take a line: a command, or expressions. -/
def submitLine (line : String) : Step Bool := do
  if ← obey line then return true
  else allOf submitExpr (Text.pieces line)

/-- Take the lines of a text that are not blank. -/
def submitText (text : String) : Step Bool :=
  allOf submitLine ((Text.lines text).filter fun line => !(Text.trim line).isEmpty)

end Session

end PrefixCalc
