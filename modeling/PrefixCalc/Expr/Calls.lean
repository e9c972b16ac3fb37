import PrefixCalc.Expr

/-!
# The functions an expression calls

`calls` lists the functions that expressions call when they are evaluated, each
once, in the order of the text. The body of a definition inside an expression is
not part of it: it runs only when that function is called. The walk keeps the
expressions it has yet to visit in a list, so that no tree is too deep for it.
-/

namespace PrefixCalc.Expr

/-- The expressions evaluated as parts of an expression, from left to right. -/
def parts : Expr → List Expr
  | .define _ value | .assign _ value | .print value | .unary _ value => [value]
  | .binary _ left right => [left, right]
  | .choose condition whenTrue whenFalse => [condition, whenTrue, whenFalse]
  | .call _ arguments => arguments
  | .literal _ | .get _ | .function .. | .gap _ => []

mutual

/-- How many expressions an expression is made of. -/
def size : Expr → Nat
  | .define _ value | .assign _ value | .print value | .unary _ value => 1 + size value
  | .binary _ left right => 1 + size left + size right
  | .choose condition whenTrue whenFalse => 1 + size condition + size whenTrue + size whenFalse
  | .call _ arguments => 1 + totalSize arguments
  | .literal _ | .get _ | .function .. | .gap _ => 1

/-- How many expressions some expressions are made of. -/
def totalSize : List Expr → Nat
  | [] => 0
  | first :: rest => size first + totalSize rest

end

/-- Sizes add up over lists. -/
theorem totalSize_append (first second : List Expr) :
    totalSize (first ++ second) = totalSize first + totalSize second := by
  induction first with
  | nil => simp [totalSize]
  | cons head tail ih => simp [totalSize, ih, Nat.add_assoc]

/-- An expression is larger by one than its parts together. -/
theorem size_eq_succ_totalSize_parts (expr : Expr) :
    expr.size = totalSize expr.parts + 1 := by
  cases expr <;> simp [size, parts, totalSize] <;> omega

/-- Add a name at the end unless it is already there. -/
def addName (names : List String) (name : String) : List String :=
  if name ∈ names then names else names ++ [name]

/-- The names called so far and in one more expression, its parts aside. -/
def noteCall (names : List String) : Expr → List String
  | .call name _ => addName names name
  | _ => names

/-- Visit the waiting expressions, each before its parts, and note the names they call. -/
def collectCalls (names : List String) : List Expr → List String
  | [] => names
  | expr :: waiting => collectCalls (noteCall names expr) (expr.parts ++ waiting)
termination_by waiting => totalSize waiting
decreasing_by
  rw [totalSize_append, totalSize, size_eq_succ_totalSize_parts]
  omega

/-- The functions that some expressions call, each once, in the order of the text. -/
def calls (body : List Expr) : List String :=
  collectCalls [] body

end PrefixCalc.Expr
