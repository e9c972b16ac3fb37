import PrefixCalc.Value

/-!
# Faults

Why an evaluation fails. Each cause is a constructor, and `Fault.message` is the
only place that words it.
-/

namespace PrefixCalc

/-- A place in a tree where no expression stands. -/
inductive Gap where
  /-- The rest of a definition has yet to come. -/
  | unfinished
  /-- An expression of no form. -/
  | formless
  /-- Nothing at all. -/
  | absent
deriving DecidableEq, Repr

/-- How a definition would make a function reach itself. -/
inductive Recursion where
  /-- The function calls itself. -/
  | self (name : String)
  /-- The function calls another one that calls it. -/
  | dual (name other : String)
  /-- The function is called by one that it reaches. -/
  | cross (name other : String)
deriving DecidableEq, Repr

/-- The wording of a refused recursion. -/
def Recursion.message : Recursion → String
  | .self name => s!"Self recursive function '{name}'"
  | .dual name other => s!"Dual recursive functions '{name}' and '{other}'"
  | .cross name other => s!"Cross recursive functions '{name}' and '{other}'"

/-- Why an evaluation fails. -/
inductive Fault where
  /-- A boolean was needed. -/
  | notBoolean (value : Value)
  /-- A number was needed. -/
  | notNumber (value : Value)
  /-- A comparison met a number and a boolean. -/
  | mismatched (left right : Value)
  /-- The variable is not defined in this frame. -/
  | unknownVariable (name : String)
  /-- The variable is already defined in this frame. -/
  | duplicateVariable (name : String)
  /-- The function is not installed. -/
  | unknownFunction (name : String)
  /-- A call has more or fewer arguments than the function has parameters. -/
  | argumentCount
  /-- The tree has a gap where an expression is needed. -/
  | gap (gap : Gap)
  /-- The definition would make a function reach itself. -/
  | recursive (recursion : Recursion)
  /-- Evaluation went deeper than its budget. -/
  | tooDeep

/-- The wording of a fault. -/
def Fault.message : Fault → String
  | .notBoolean value => value.text ++ " not a boolean"
  | .notNumber value => value.text ++ " not a number"
  | .mismatched left right =>
    "Mismatched comparison - '" ++ left.text ++ "' and '" ++ right.text ++ "'"
  | .unknownVariable name => s!"Unknown variable '{name}'"
  | .duplicateVariable name => s!"Duplicate variable definition '{name}'"
  | .unknownFunction name => s!"Unknown function '{name}'"
  | .argumentCount => "Invalid arguments length"
  | .gap .unfinished => "Eval called on noop"
  | .gap .formless => "Unknown code node Code"
  | .gap .absent => "Unknown code node NoneType"
  | .recursive recursion => recursion.message
  | .tooDeep => "Expression too deeply nested"

namespace Value

/-- The number in a value; a boolean is a fault. -/
def toNumber : Value → Except Fault Float
  | .number x => .ok x
  | .boolean p => .error (.notNumber (.boolean p))

/-- The boolean in a value; a number is a fault. -/
def toBoolean : Value → Except Fault Bool
  | .number x => .error (.notBoolean (.number x))
  | .boolean p => .ok p

/-- A fault unless two values are of one kind. -/
def requireOneKind (left right : Value) : Except Fault Unit :=
  if left.sameKind right then .ok () else .error (.mismatched left right)

end Value

end PrefixCalc
