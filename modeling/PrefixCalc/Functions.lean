import PrefixCalc.Expr
import PrefixCalc.Table
import PrefixCalc.Text.Column

/-!
# Functions

The functions that all call frames share. Installing a function again replaces it.
-/

namespace PrefixCalc

/-- A function: the names of its parameters and the expressions of its body. -/
structure Function where
  /-- The names that the arguments are given. -/
  parameters : List String
  /-- The expressions that a call evaluates, in order. -/
  body : List Expr

/-- The parameters of a function as they are listed. -/
def Function.signature (function : Function) : String :=
  "(" ++ ", ".intercalate function.parameters ++ ")"

/-- The functions of all frames. -/
abbrev Functions := Table Function

namespace Functions

/-- The function with a name. -/
def get (functions : Functions) (name : String) : Except Fault Function :=
  match functions.find? name with
  | some function => .ok function
  | none => .error (.unknownFunction name)

/-- The functions and their parameters as rows. -/
def rows (functions : Functions) : List (String × String) :=
  functions.entries.map fun entry => (entry.1, entry.2.signature)

/-- The functions and their parameters, line by line. -/
def listing (functions : Functions) : List String :=
  Text.columns ("Func", "Params") functions.rows

end Functions

end PrefixCalc
