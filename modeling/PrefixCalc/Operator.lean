import PrefixCalc.Double.Arithmetic
import PrefixCalc.Fault

/-!
# Operators and constants

Each operator has a symbol and a rule. The rule says which kinds of operands it
takes and what it computes from them, so whether an application faults depends on
the kinds alone and never on a number.
-/

namespace PrefixCalc

/-- The operators that take two operands. -/
inductive BinaryOp where
  | add | subtract | multiply | divide | remainder | power | maximum | minimum
  | equal | notEqual | less | lessEqual | greater | greaterEqual
  | both | either
deriving DecidableEq, Repr

/-- The operators that take one operand. -/
inductive UnaryOp where
  | sqrt | exp | exp2 | ln | log2 | log10
  | sin | cos | tan | sinh | cosh | tanh | asin | acos | atan | asinh | acosh | atanh
  | sign | abs | reciprocal | fraction | truncate | ceiling | floor | round
  | negate | complement | toNumber | toBoolean
deriving DecidableEq, Repr

/-- The named numbers. -/
inductive Constant where
  | pi | tau | e | phi
deriving DecidableEq, Repr

/-- What a binary operator does with its operands. -/
inductive BinaryRule where
  /-- Two numbers give a number. -/
  | numeric (operation : Float → Float → Float)
  /-- Two values of one kind give a boolean. -/
  | comparison (onNumbers : Float → Float → Bool) (onBooleans : Bool → Bool → Bool)
  /-- Two booleans give a boolean. -/
  | logical (operation : Bool → Bool → Bool)

/-- What a unary operator does with its operand. -/
inductive UnaryRule where
  /-- A number gives a number. -/
  | numeric (operation : Float → Float)
  /-- A boolean gives a boolean. -/
  | logical (operation : Bool → Bool)
  /-- Any value gives a number. -/
  | asNumber
  /-- Any value gives a boolean. -/
  | asBoolean

/-- Apply a binary rule. The left operand's kind is looked at first. -/
def BinaryRule.apply (rule : BinaryRule) (left right : Value) : Except Fault Value :=
  match rule with
  | .numeric operation => do
    return .number (operation (← left.toNumber) (← right.toNumber))
  | .comparison onNumbers onBooleans => do
    left.requireOneKind right
    return .boolean (left.relate onNumbers onBooleans right)
  | .logical operation => do
    return .boolean (operation (← left.toBoolean) (← right.toBoolean))

/-- Apply a unary rule. -/
def UnaryRule.apply (rule : UnaryRule) (operand : Value) : Except Fault Value :=
  match rule with
  | .numeric operation => return .number (operation (← operand.toNumber))
  | .logical operation => return .boolean (operation (← operand.toBoolean))
  | .asNumber => .ok (.number operand.asNumber)
  | .asBoolean => .ok (.boolean operand.asBoolean)

namespace BinaryOp

/-- Every binary operator. -/
def all : List BinaryOp :=
  [.add, .subtract, .multiply, .divide, .remainder, .power, .maximum, .minimum, .equal, .notEqual,
   .less, .lessEqual, .greater, .greaterEqual, .both, .either]

/-- The word for an operator. -/
def symbol : BinaryOp → String
  | .add => "+"
  | .subtract => "-"
  | .multiply => "*"
  | .divide => "/"
  | .remainder => "%"
  | .power => "^"
  | .maximum => "max"
  | .minimum => "min"
  | .equal => "=="
  | .notEqual => "!="
  | .less => "<"
  | .lessEqual => "<="
  | .greater => ">"
  | .greaterEqual => ">="
  | .both => "and"
  | .either => "or"

/-- The operator that a word stands for. -/
def ofSymbol? (word : String) : Option BinaryOp :=
  all.find? fun operator => operator.symbol == word

/-- An operator is found by its symbol. -/
theorem ofSymbol?_symbol (operator : BinaryOp) : ofSymbol? operator.symbol = some operator := by
  cases operator <;> rfl

/-- The rule of an operator; false comes before true. -/
def rule : BinaryOp → BinaryRule
  | .add => .numeric (· + ·)
  | .subtract => .numeric (· - ·)
  | .multiply => .numeric (· * ·)
  | .divide => .numeric (· / ·)
  | .remainder => .numeric Double.remainder
  | .power => .numeric Double.power
  | .maximum => .numeric Double.maximum
  | .minimum => .numeric Double.minimum
  | .equal => .comparison (· == ·) (· == ·)
  | .notEqual => .comparison (· != ·) (· != ·)
  | .less => .comparison (fun x y => x < y) (fun p q => !p && q)
  | .lessEqual => .comparison (fun x y => x ≤ y) (fun p q => !p || q)
  | .greater => .comparison (fun x y => y < x) (fun p q => p && !q)
  | .greaterEqual => .comparison (fun x y => y ≤ x) (fun p q => p || !q)
  | .both => .logical (· && ·)
  | .either => .logical (· || ·)

/-- The value of an operator at two operands. -/
def apply (operator : BinaryOp) (left right : Value) : Except Fault Value :=
  operator.rule.apply left right

end BinaryOp

namespace UnaryOp

/-- Every unary operator. -/
def all : List UnaryOp :=
  [.sqrt, .exp, .exp2, .ln, .log2, .log10, .sin, .cos, .tan, .sinh, .cosh, .tanh, .asin, .acos,
   .atan, .asinh, .acosh, .atanh, .sign, .abs, .reciprocal, .fraction, .truncate, .ceiling, .floor,
   .round, .negate, .complement, .toNumber, .toBoolean]

/-- The word for an operator. -/
def symbol : UnaryOp → String
  | .sqrt => "sqrt"
  | .exp => "exp"
  | .exp2 => "exp2"
  | .ln => "ln"
  | .log2 => "log2"
  | .log10 => "log10"
  | .sin => "sin"
  | .cos => "cos"
  | .tan => "tan"
  | .sinh => "sinh"
  | .cosh => "cosh"
  | .tanh => "tanh"
  | .asin => "asin"
  | .acos => "acos"
  | .atan => "atan"
  | .asinh => "asinh"
  | .acosh => "acosh"
  | .atanh => "atanh"
  | .sign => "sign"
  | .abs => "abs"
  | .reciprocal => "recip"
  | .fraction => "fract"
  | .truncate => "trunc"
  | .ceiling => "ceil"
  | .floor => "floor"
  | .round => "round"
  | .negate => "neg"
  | .complement => "not"
  | .toNumber => "asnum"
  | .toBoolean => "asbool"

/-- The operator that a word stands for. -/
def ofSymbol? (word : String) : Option UnaryOp :=
  all.find? fun operator => operator.symbol == word

/-- An operator is found by its symbol. -/
theorem ofSymbol?_symbol (operator : UnaryOp) : ofSymbol? operator.symbol = some operator := by
  cases operator <;> rfl

/-- The rule of an operator. -/
def rule : UnaryOp → UnaryRule
  | .sqrt => .numeric Float.sqrt
  | .exp => .numeric Float.exp
  | .exp2 => .numeric (Float.pow 2)
  | .ln => .numeric Float.log
  | .log2 => .numeric Float.log2
  | .log10 => .numeric Float.log10
  | .sin => .numeric Float.sin
  | .cos => .numeric Float.cos
  | .tan => .numeric Float.tan
  | .sinh => .numeric Float.sinh
  | .cosh => .numeric Float.cosh
  | .tanh => .numeric Float.tanh
  | .asin => .numeric Float.asin
  | .acos => .numeric Float.acos
  | .atan => .numeric Float.atan
  | .asinh => .numeric Float.asinh
  | .acosh => .numeric Float.acosh
  | .atanh => .numeric Float.atanh
  | .sign => .numeric Double.signum
  | .abs => .numeric Float.abs
  | .reciprocal => .numeric (1 / ·)
  | .fraction => .numeric Double.fraction
  | .truncate => .numeric Double.truncate
  | .ceiling => .numeric Double.ceiling
  | .floor => .numeric Double.floor
  | .round => .numeric Double.round
  | .negate => .numeric (- ·)
  | .complement => .logical (! ·)
  | .toNumber => .asNumber
  | .toBoolean => .asBoolean

/-- The value of an operator at an operand. -/
def apply (operator : UnaryOp) (operand : Value) : Except Fault Value :=
  operator.rule.apply operand

end UnaryOp

namespace Constant

/-- Every constant. -/
def all : List Constant :=
  [.pi, .tau, .e, .phi]

/-- The word for a constant. -/
def symbol : Constant → String
  | .pi => "pi"
  | .tau => "tau"
  | .e => "e"
  | .phi => "phi"

/-- The constant that a word stands for. -/
def ofSymbol? (word : String) : Option Constant :=
  all.find? fun constant => constant.symbol == word

/-- A constant is found by its symbol. -/
theorem ofSymbol?_symbol (constant : Constant) : ofSymbol? constant.symbol = some constant := by
  cases constant <;> rfl

/-- The double nearest to a constant. -/
def value : Constant → Float
  | .pi => 3.141592653589793
  | .tau => 6.283185307179586
  | .e => 2.718281828459045
  | .phi => 1.618033988749895

end Constant

end PrefixCalc
