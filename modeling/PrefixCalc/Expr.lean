import PrefixCalc.Operator

/-!
# Expressions

The tree of an expression. Every form has a value, definitions and assignments
included.
-/

namespace PrefixCalc

/-- An expression. -/
inductive Expr where
  /-- A value written out. -/
  | literal (value : Value)
  /-- The value of a variable. -/
  | get (name : String)
  /-- Define a new variable. -/
  | define (name : String) (value : Expr)
  /-- Change a variable. -/
  | assign (name : String) (value : Expr)
  /-- An operator with two operands. -/
  | binary (operator : BinaryOp) (left right : Expr)
  /-- An operator with one operand. -/
  | unary (operator : UnaryOp) (operand : Expr)
  /-- One of two expressions, by a condition. -/
  | choose (condition whenTrue whenFalse : Expr)
  /-- Print the value of an expression. -/
  | print (value : Expr)
  /-- Define a function. -/
  | function (name : String) (parameters : List String) (body : List Expr)
  /-- Call a function. -/
  | call (name : String) (arguments : List Expr)
  /-- No expression. -/
  | gap (gap : Gap)
deriving Inhabited

namespace Expr

/-- The other branch of a condition that has only one. -/
def noBranch : Expr :=
  .literal (.boolean false)

/-- Whether an expression is a call. -/
def isCall : Expr → Bool
  | .call .. => true
  | _ => false

/-- The name that an expression reads, defines, changes or calls. -/
def name? : Expr → Option String
  | .get name | .define name _ | .assign name _ | .function name _ _ | .call name _ => some name
  | _ => none

end Expr

end PrefixCalc
