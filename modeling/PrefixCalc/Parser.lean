import PrefixCalc.Escape
import PrefixCalc.Expr
import PrefixCalc.ParseError
import PrefixCalc.Token.Buffer

/-!
# From tokens to expressions

An expression starts with its operator, so one token decides its form and the
expressions inside it follow. `expr` reads one expression off the front of a
buffer; how deep expressions may nest is a budget.
-/

namespace PrefixCalc

/-- Why reading stops. -/
inductive Stop where
  /-- The tokens are no expression. -/
  | refused (error : ParseError)
  /-- Something that is no matter of grammar. -/
  | escaped (escape : Escape)

/-- A reader of tokens; when it stops, the tokens it has not taken stay. -/
abbrev Parser := EStateM Stop Buffer

namespace Parser

/-- How deep expressions may nest. -/
def nestingLimit : Nat := 500

variable {α : Type}

/-- Stop with a parse error. -/
def refuse (error : ParseError) : Parser α :=
  throw (.refused error)

/-- Take the next token. -/
def next? : Parser (Option Token) :=
  modifyGet fun buffer => (buffer.head?, buffer.tail)

/-- Look at the next token. -/
def peek? : Parser (Option Token) :=
  return (← get).head?

/-- Take the next token, which is known. -/
def skip : Parser Unit :=
  modify List.tail

/-- Read items up to a token of kind `close` and take that too; the tokens must not end before it.
Every item takes a token, so one round more than there are tokens is always enough. -/
def itemsUntil (item : Parser α) (close : Kind) (unclosed : ParseError) : Parser (List α) := do
  rounds ((← get).length + 1)
where
  /-- At most `count` more items. -/
  rounds : Nat → Parser (List α)
    | 0 => refuse unclosed
    | count + 1 => do
      let some token ← peek? | refuse unclosed
      if token.kind = close then
        skip
        return []
      else
        let first ← item
        return first :: (← rounds count)

/-- The value of a literal's word. -/
def literalValue? (word : String) : Option Value :=
  if word = "true" then some (.boolean true)
  else if word = "false" then some (.boolean false)
  else (Double.Numeral.ofText? word.toList).map fun numeral => .number numeral.value

/-- The expression of a literal. -/
def literal (word : String) : Parser Expr :=
  match literalValue? word with
  | some value => return .literal value
  | none => throw (.escaped (.unreadable word))

/-- The expression of a constant. -/
def constant (word : String) : Parser Expr :=
  match Constant.ofSymbol? word with
  | some constant => return .literal (.number constant.value)
  | none => refuse (.unknownConstant word)

/-- Take an identifier. -/
def identifier (missing : ParseError) (invalid : String → ParseError) : Parser String := do
  let some token ← next? | refuse missing
  if token.kind = .identifier then return token.lexeme else refuse (invalid token.lexeme)

/-- Take a name that a definition gives; reserved words are told apart from other words. -/
def newName (role : NameRole) (missing : ParseError) : Parser String := do
  let some token ← next? | refuse missing
  if Kind.isReserved token.lexeme then refuse (.reservedName role token.lexeme)
  else if token.kind = .identifier then return token.lexeme
  else refuse (.invalidName role token.lexeme)

/-- The kind of the token that is a mark. -/
def markKind : Mark → Kind
  | .thenMark => .thenMark
  | .elseMark => .elseMark
  | .fiMark => .fiMark

/-- Take the mark that closes a part of a condition. -/
def closePart (mark : Mark) : Parser Unit := do
  let some token ← peek? | refuse (.missingMark mark)
  if token.kind = markKind mark then skip else refuse (.expectedMark mark)

/-- Take the mark that closes the first branch; `true` if it closes the condition too. -/
def closeBranch : Parser Bool := do
  let some token ← peek? | refuse (.missingMark .elseMark)
  if token.kind = .elseMark then
    skip
    return false
  else if token.kind = .fiMark then
    skip
    return true
  else refuse (.expectedMark .elseMark)

/-- What follows `if`. -/
def condition (inner : Parser Expr) : Parser Expr := do
  let condition ← inner
  closePart .thenMark
  let whenTrue ← inner
  if ← closeBranch then
    return .choose condition whenTrue Expr.noBranch
  else
    let whenFalse ← inner
    closePart .fiMark
    return .choose condition whenTrue whenFalse

/-- What follows `def`. -/
def function (inner : Parser Expr) : Parser Expr := do
  let name ← newName .function .unnamedFunction
  let parameters ← itemsUntil (newName .parameter .openParameters) .beginMark .openParameters
  let body ← itemsUntil inner .endMark .openBody
  return .function name parameters body

/-- What follows `call`. -/
def call (inner : Parser Expr) : Parser Expr := do
  let name ← identifier .unnamedCall .callName
  let arguments ← itemsUntil inner .callEndMark .openArguments
  return .call name arguments

/-- The expression that a token opens; `inner` reads the expressions inside it. -/
def form (inner : Parser Expr) (token : Token) : Parser Expr :=
  match token.kind with
  | .literal => literal token.lexeme
  | .constant => constant token.lexeme
  | .identifier => return .get token.lexeme
  | .define => do
    let name ← identifier .unnamedDefinition .definitionName
    return .define name (← inner)
  | .assign => do
    let name ← identifier .unnamedAssignment .assignmentName
    return .assign name (← inner)
  | .binaryOp =>
    match BinaryOp.ofSymbol? token.lexeme with
    | some operator => do
      let left ← inner
      let right ← inner
      return .binary operator left right
    | none => refuse (.unknownBinaryOp token.lexeme)
  | .unaryOp =>
    match UnaryOp.ofSymbol? token.lexeme with
    | some operator => return .unary operator (← inner)
    | none => refuse (.unknownUnaryOp token.lexeme)
  | .special =>
    if token.lexeme = "xprint" then return .print (← inner)
    else refuse (.unknownSpecial token.lexeme)
  | .function => function inner
  | .call => call inner
  | .ifMark => condition inner
  | .beginMark => refuse .strayBegin
  | .endMark | .callEndMark => refuse .strayEnd
  | .thenMark => refuse (.strayMark .thenMark)
  | .elseMark => refuse (.strayMark .elseMark)
  | .fiMark => refuse (.strayMark .fiMark)
  | .foreign _ => refuse (.unexpected token.lexeme)

/-- Read one expression that nests at most `budget` deep. -/
def expr : Nat → Parser Expr
  | 0 => refuse .tooDeep
  | budget + 1 => do
    let some token ← next? | refuse .expectingToken
    form (expr budget) token

end Parser

end PrefixCalc
