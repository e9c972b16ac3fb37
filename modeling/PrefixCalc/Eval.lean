import PrefixCalc.Environment
import PrefixCalc.Event
import PrefixCalc.Functions.Recursion

/-!
# Evaluation

Evaluation goes from left to right and changes the environment as it goes. A fault
ends it, and what was changed and printed before stays. Arguments are evaluated in
the caller's frame and bodies in a frame of their own, which is gone after the
call. Expressions and calls nest at most as deep as a budget.
-/

namespace PrefixCalc

/-- The state of an evaluation. -/
structure Run where
  /-- What the current frame sees. -/
  environment : Environment := {}
  /-- What has happened so far. -/
  events : Array Event := #[]

namespace Run

/-- The run with other variables in the current frame. -/
def withLocals (run : Run) (locals : Variables) : Run :=
  { run with environment := { run.environment with locals } }

/-- The run with other functions. -/
def withFunctions (run : Run) (functions : Functions) : Run :=
  { run with environment := { run.environment with functions } }

/-- The run with one more event. -/
def note (run : Run) (event : Event) : Run :=
  { run with events := run.events.push event }

end Run

/-- An evaluation; a fault leaves the state as it was reached. -/
abbrev Eval := EStateM Fault Run

namespace Eval

/-- How deep expressions and calls may nest. -/
def nestingLimit : Nat := 650

variable {α : Type}

/-- An outcome as an evaluation that changes nothing. -/
def ofExcept : Except Fault α → Eval α
  | .ok result => pure result
  | .error fault => throw fault

/-- Note an event. -/
def emit (event : Event) : Eval Unit :=
  modify fun run => run.note event

/-- The variables of the current frame. -/
def locals : Eval Variables :=
  return (← get).environment.locals

/-- The functions of all frames. -/
def functions : Eval Functions :=
  return (← get).environment.functions

/-- Replace the variables of the current frame. -/
def setLocals (locals : Variables) : Eval Unit :=
  modify fun run => run.withLocals locals

/-- Replace the functions of all frames. -/
def setFunctions (functions : Functions) : Eval Unit :=
  modify fun run => run.withFunctions functions

/-- Define a variable in the current frame. -/
def define (name : String) (value : Value) : Eval Value := do
  setLocals (← ofExcept ((← locals).define name value))
  return value

/-- Change a variable of the current frame. -/
def assign (name : String) (value : Value) : Eval Value := do
  setLocals (← ofExcept ((← locals).assign name value))
  return value

/-- Install a function unless it would reach itself; the value is true. -/
def install (name : String) (function : Function) : Eval Value := do
  match (← functions).recursion? name function with
  | some recursion =>
    emit (.trace (.rejected recursion))
    throw (.recursive recursion)
  | none =>
    setFunctions ((← functions).insert name function)
    emit (.trace (.installed name function.parameters))
    return .boolean true

/-- Evaluate in a frame of its own with the given variables, and go back to the current frame
afterwards, faults included. -/
def inFrame (locals : Variables) (body : Eval α) : Eval α := fun run =>
  -- The current frame is frame 0, and the body sees frame 1.
  let frames := (Frames.ofEnvironment run.environment).addFrame
  let back (after : Run) : Run :=
    { after with environment := (frames.update 1 after.environment).environment 0 }
  match body { run with environment := { frames.environment 1 with locals } } with
  | .ok result after => .ok result (back after)
  | .error fault after => .error fault (back after)

/-- What runs in a frame of its own goes back to the variables of the current frame. -/
theorem inFrame_apply (locals : Variables) (body : Eval α) (run : Run) :
    inFrame locals body run =
      match body (run.withLocals locals) with
      | .ok result after => .ok result (after.withLocals run.environment.locals)
      | .error fault after => .error fault (after.withLocals run.environment.locals) := rfl

/-- Evaluate arguments from left to right. -/
def each (inner : Expr → Eval Value) : List Expr → Eval (List Value)
  | [] => return []
  | first :: rest => do
    let value ← inner first
    return value :: (← each inner rest)

/-- Evaluate the expressions of a body in order; the last one has the value, and a body without
expressions has the value so far. -/
def sequence (inner : Expr → Eval Value) (soFar : Value) : List Expr → Eval Value
  | [] => return soFar
  | first :: rest => do sequence inner (← inner first) rest

/-- Call a function: count the arguments, evaluate them, bind the parameters, run the body. -/
def invoke (inner : Expr → Eval Value) (function : Function) (arguments : List Expr) :
    Eval Value := do
  if arguments.length ≠ function.parameters.length then throw .argumentCount
  let values ← each inner arguments
  let locals ← ofExcept (Variables.defineAll ∅ (function.parameters.zip values))
  inFrame locals (sequence inner (.number 0) function.body)

/-- Evaluate an expression; `inner` evaluates the expressions inside it and the bodies it calls. -/
def form (inner : Expr → Eval Value) : Expr → Eval Value
  | .literal value => return value
  | .get name => do ofExcept ((← locals).get name)
  | .define name value => do define name (← inner value)
  | .assign name value => do assign name (← inner value)
  | .binary operator left right => do
    let left ← inner left
    let right ← inner right
    ofExcept (operator.apply left right)
  | .unary operator operand => do ofExcept (operator.apply (← inner operand))
  | .choose condition whenTrue whenFalse => do
    let condition ← inner condition
    if ← ofExcept condition.toBoolean then inner whenTrue else inner whenFalse
  | .print value => do
    let value ← inner value
    emit (.printed value)
    return value
  | .function name parameters body => install name ⟨parameters, body⟩
  | .call name arguments => do
    let function ← ofExcept ((← functions).get name)
    invoke inner function arguments
  | .gap gap => throw (.gap gap)

/-- Evaluate an expression that nests at most `budget` deep, calls included. -/
def expr : Nat → Expr → Eval Value
  | 0, _ => throw .tooDeep
  | budget + 1, code => form (expr budget) code

end Eval

end PrefixCalc
