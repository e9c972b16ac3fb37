import PrefixCalc.Double.Numeral
import PrefixCalc.Operator
import PrefixCalc.Text.Letter

/-!
# Tokens

A token is a word with its kind and its column. `Kind.ofWord?` names the kind of
a word: a reserved word has its own, then come numerals without low lines, then
identifiers, and other words have none.
-/

namespace PrefixCalc

/-- What a word is for. -/
inductive Kind where
  /-- The symbol of an operator with two operands. -/
  | binaryOp
  /-- The symbol of an operator with one operand. -/
  | unaryOp
  /-- A numeral, `true` or `false`. -/
  | literal
  /-- The symbol of a constant. -/
  | constant
  /-- The name of a variable or a function. -/
  | identifier
  /-- Opens the definition of a variable. -/
  | define
  /-- Opens the change of a variable. -/
  | assign
  /-- Opens the definition of a function. -/
  | function
  /-- Opens a call. -/
  | call
  /-- Opens a form of its own, such as printing. -/
  | special
  /-- Stands before the body of a function. -/
  | beginMark
  /-- Closes the body of a function. -/
  | endMark
  /-- Closes the arguments of a call. -/
  | callEndMark
  /-- Opens a condition. -/
  | ifMark
  /-- Stands between a condition and its first branch. -/
  | thenMark
  /-- Stands between two branches. -/
  | elseMark
  /-- Closes the last branch. -/
  | fiMark
  /-- A kind from outside the language, known by its name. -/
  | foreign (name : String)
deriving DecidableEq, Repr

/-- A word of a text: its kind, its letters and the column where it starts. -/
structure Token where
  /-- What the word is for. -/
  kind : Kind
  /-- The word. -/
  lexeme : String
  /-- The place of its first character in its line, counted from one. -/
  column : Nat
deriving DecidableEq, Repr

namespace Kind

/-- The kinds of the language. -/
def all : List Kind :=
  [.binaryOp, .unaryOp, .literal, .constant, .identifier, .define, .assign, .function, .call,
   .special, .beginMark, .endMark, .callEndMark, .ifMark, .thenMark, .elseMark, .fiMark]

/-- The name of a kind in listings. -/
def name : Kind → String
  | .binaryOp => "BINARY_OP"
  | .unaryOp => "UNARY_OP"
  | .literal => "LITERAL"
  | .constant => "CONST"
  | .identifier => "IDENTIFIER"
  | .define => "DEFINE"
  | .assign => "ASSIGN"
  | .function => "DEFUN"
  | .call => "FUNCALL"
  | .special => "SPECIAL"
  | .beginMark => "BEGIN"
  | .endMark => "END"
  | .callEndMark => "CEND"
  | .ifMark => "IF"
  | .thenMark => "THEN"
  | .elseMark => "ELSE"
  | .fiMark => "FI"
  | .foreign name => name

/-- The kind with a name. -/
def ofName (name : String) : Kind :=
  (all.find? fun kind => kind.name == name).getD (.foreign name)

/-- The reserved words that are neither operators nor constants. -/
def keywords : List (String × Kind) :=
  [("true", .literal), ("false", .literal), ("xprint", .special), ("var", .define), ("=", .assign),
   ("def", .function), ("call", .call), ("begin", .beginMark), ("end", .endMark),
   ("cend", .callEndMark), ("if", .ifMark), ("?", .thenMark), (":", .elseMark),
   ("fi", .fiMark)]

/-- The kind of a reserved word. -/
def ofReserved? (word : String) : Option Kind :=
  if (BinaryOp.ofSymbol? word).isSome then some .binaryOp
  else if (UnaryOp.ofSymbol? word).isSome then some .unaryOp
  else if (Constant.ofSymbol? word).isSome then some .constant
  else keywords.lookup word

/-- Whether a word is reserved. -/
def isReserved (word : String) : Bool :=
  (ofReserved? word).isSome

/-- Whether a word is a numeral without low lines. -/
def isNumeral (word : String) : Bool :=
  !word.toList.contains '_' && (Double.Numeral.ofText? word.toList).isSome

/-- The kind of a word, if it has one. -/
def ofWord? (word : String) : Option Kind :=
  match ofReserved? word with
  | some kind => some kind
  | none =>
    if isNumeral word then some .literal
    else if Text.isIdentifier word.toList then some .identifier
    else none

end Kind

end PrefixCalc
