/-!
# Parse errors

Why tokens are no expression. Each cause is a constructor, and
`ParseError.message` is the only place that words it.
-/

namespace PrefixCalc

/-- The marks that close the parts of a condition. -/
inductive Mark where
  /-- Closes the condition itself. -/
  | thenMark
  /-- Closes the first branch. -/
  | elseMark
  /-- Closes the last branch. -/
  | fiMark
deriving DecidableEq, Repr

/-- A mark in the wording of an error. -/
def Mark.title : Mark → String
  | .thenMark => "Then"
  | .elseMark => "Else"
  | .fiMark => "Fi"

/-- What a definition names. -/
inductive NameRole where
  | function | parameter
deriving DecidableEq, Repr

/-- A role in the wording of an error. -/
def NameRole.title : NameRole → String
  | .function => "function name definition"
  | .parameter => "function parameter definition"

/-- Why tokens are no expression. -/
inductive ParseError where
  /-- The text has a word of no kind. -/
  | invalidWord (word : String)
  /-- The tokens end where an expression should start. -/
  | expectingToken
  /-- The tokens end where a variable to define should be named. -/
  | unnamedDefinition
  /-- A variable to define has a name that is no identifier. -/
  | definitionName (word : String)
  /-- The tokens end where a variable to change should be named. -/
  | unnamedAssignment
  /-- A variable to change has a name that is no identifier. -/
  | assignmentName (word : String)
  /-- No binary operator has this word. -/
  | unknownBinaryOp (word : String)
  /-- No unary operator has this word. -/
  | unknownUnaryOp (word : String)
  /-- No special form has this word. -/
  | unknownSpecial (word : String)
  /-- No constant has this word. -/
  | unknownConstant (word : String)
  /-- An expression cannot start with `begin`. -/
  | strayBegin
  /-- An expression cannot start with `end` or `cend`. -/
  | strayEnd
  /-- An expression cannot start with the mark of this title. -/
  | strayMark (mark : Mark)
  /-- An expression cannot start with a token of a foreign kind. -/
  | unexpected (word : String)
  /-- The tokens end where a function to define should be named. -/
  | unnamedFunction
  /-- A definition names something by a reserved word. -/
  | reservedName (role : NameRole) (word : String)
  /-- A definition names something by a word that is no identifier. -/
  | invalidName (role : NameRole) (word : String)
  /-- The tokens end among the parameters. -/
  | openParameters
  /-- The tokens end in the body. -/
  | openBody
  /-- The tokens end where a function to call should be named. -/
  | unnamedCall
  /-- A function to call has a name that is no identifier. -/
  | callName (word : String)
  /-- The tokens end among the arguments. -/
  | openArguments
  /-- The tokens end where a part of a condition should be closed. -/
  | missingMark (mark : Mark)
  /-- A part of a condition is followed by something else than its mark. -/
  | expectedMark (mark : Mark)
  /-- The text goes on behind its expression. -/
  | leftover (text : String)
  /-- Expressions nest deeper than the budget. -/
  | tooDeep
deriving DecidableEq, Repr

/-- The wording of a parse error. -/
def ParseError.message : ParseError → String
  | .invalidWord word => s!"Invalid identifier - '{word}'"
  | .expectingToken => "Expecting token"
  | .unnamedDefinition => "Incomplete variable definition"
  | .definitionName word => s!"Invalid variable definition name - '{word}'"
  | .unnamedAssignment => "Incomplete set variable"
  | .assignmentName word => s!"Invalid set variable name - '{word}'"
  | .unknownBinaryOp word => s!"Unknown binary op - {word}"
  | .unknownUnaryOp word => s!"Unknown unary op - {word}"
  | .unknownSpecial word => s!"Unknown special ftn - {word}"
  | .unknownConstant word => s!"Unknown constant - '{word}'"
  | .strayBegin => "Invalid expression containing begin"
  | .strayEnd => "Invalid expression containing end"
  | .strayMark .thenMark => "Invalid expression containing then"
  | .strayMark .elseMark => "Invalid expression containing else"
  | .strayMark .fiMark => "Invalid expression containing fi"
  | .unexpected word => s!"Unexpected token '{word}'"
  | .unnamedFunction => "Invalid function definition"
  | .reservedName role word => "Invalid reserved " ++ role.title ++ s!" - '{word}'"
  | .invalidName role word => "Invalid " ++ role.title ++ s!" - '{word}'"
  | .openParameters => "Invalid function definition/parameters"
  | .openBody => "Invalid function definition/body"
  | .unnamedCall => "Invalid function call"
  | .callName word => s!"Invalid function call name - '{word}'"
  | .openArguments => "Invalid function call/arguments"
  | .missingMark mark => "Incomplete if expression - missing '" ++ mark.title ++ "'"
  | .expectedMark mark => "Invalid if expression - expecting '" ++ mark.title ++ "'"
  | .leftover text => s!"Invalid expression - '{text}'"
  | .tooDeep => "Expression too deeply nested"

end PrefixCalc
