import PrefixCalc.Double.Written

/-!
# Values

What an expression evaluates to: a number or a boolean. The two kinds are never
mixed silently; `asNumber` and `asBoolean` are the conversions that a program asks
for.
-/

namespace PrefixCalc

/-- A number or a boolean. -/
inductive Value where
  /-- A double. -/
  | number (value : Float)
  /-- A truth value. -/
  | boolean (value : Bool)
deriving Inhabited

namespace Value

/-- Whether a value is a number. -/
def isNumber : Value → Bool
  | .number _ => true
  | .boolean _ => false

/-- Whether a value is a boolean. -/
def isBoolean (value : Value) : Bool :=
  !value.isNumber

/-- Whether two values are both numbers or both booleans. -/
def sameKind (left right : Value) : Bool :=
  left.isNumber == right.isNumber

/-- Whether two values of one kind stand in the relation for that kind. -/
def relate (onNumbers : Float → Float → Bool) (onBooleans : Bool → Bool → Bool) :
    Value → Value → Bool
  | .number x, .number y => onNumbers x y
  | .boolean p, .boolean q => onBooleans p q
  | _, _ => false

/-- Whether two values are of one kind and equal; zeros are equal whatever their signs, and a NaN
equals nothing. -/
def equal (left right : Value) : Bool :=
  left.relate (· == ·) (· == ·) right

/-- The value as a number: true is one and false is zero. -/
def asNumber : Value → Float
  | .number x => x
  | .boolean true => 1
  | .boolean false => 0

/-- The value as a boolean: a number is true unless it is zero. -/
def asBoolean : Value → Bool
  | .number x => x != 0
  | .boolean p => p

/-- The text of a value. -/
def text : Value → String
  | .number x => Double.write x
  | .boolean true => "true"
  | .boolean false => "false"

end Value

end PrefixCalc
