import PrefixCalc.Proofs.Lexed
import PrefixCalc.Proofs.Outcome

/-!
# The grammar of expressions

`Derives` is the grammar, one constructor for each production, with the expression
that a sentence stands for; `IsLiteral` says which words are literals. What the parser
reads off the front of a buffer is a sentence (`derives_of_expr_eq_ok`).
-/

namespace PrefixCalc

/-- The words that stand for values. -/
inductive IsLiteral : String → Value → Prop
  /-- The word for truth. -/
  | truth : IsLiteral "true" (.boolean true)
  /-- The word for falsehood. -/
  | falsehood : IsLiteral "false" (.boolean false)
  /-- A numeral. -/
  | numeral {word : String} {numeral : Double.Numeral} :
    Double.Numeral.ofText? word.toList = some numeral → IsLiteral word (.number numeral.value)

/-- The tokens that stand for an expression. The expressions of a body and the arguments of a call
come as pairs of their tokens and their trees. -/
inductive Derives : List Token → Expr → Prop
  /-- A literal. -/
  | literal {token : Token} {value : Value} : token.kind = .literal →
    IsLiteral token.lexeme value → Derives [token] (.literal value)
  /-- A constant. -/
  | constant {token : Token} {constant : Constant} : token.kind = .constant →
    Constant.ofSymbol? token.lexeme = some constant →
    Derives [token] (.literal (.number constant.value))
  /-- A variable. -/
  | get {token : Token} : token.kind = .identifier → Derives [token] (.get token.lexeme)
  /-- The definition of a variable. -/
  | define {opener name : Token} {words : List Token} {value : Expr} : opener.kind = .define →
    name.kind = .identifier → Derives words value →
    Derives (opener :: name :: words) (.define name.lexeme value)
  /-- The change of a variable. -/
  | assign {opener name : Token} {words : List Token} {value : Expr} : opener.kind = .assign →
    name.kind = .identifier → Derives words value →
    Derives (opener :: name :: words) (.assign name.lexeme value)
  /-- An operator with two operands. -/
  | binary {opener : Token} {operator : BinaryOp} {leftWords rightWords : List Token}
    {left right : Expr} : opener.kind = .binaryOp →
    BinaryOp.ofSymbol? opener.lexeme = some operator → Derives leftWords left →
    Derives rightWords right →
    Derives (opener :: (leftWords ++ rightWords)) (.binary operator left right)
  /-- An operator with one operand. -/
  | unary {opener : Token} {operator : UnaryOp} {words : List Token} {operand : Expr} :
    opener.kind = .unaryOp → UnaryOp.ofSymbol? opener.lexeme = some operator →
    Derives words operand → Derives (opener :: words) (.unary operator operand)
  /-- Printing. -/
  | print {opener : Token} {words : List Token} {value : Expr} : opener.kind = .special →
    Derives words value → Derives (opener :: words) (.print value)
  /-- The definition of a function. -/
  | function {opener name start stop : Token} {parameters : List Token}
    {body : List (List Token × Expr)} : opener.kind = .function → name.kind = .identifier →
    (∀ parameter ∈ parameters, parameter.kind = .identifier) → start.kind = .beginMark →
    (∀ item ∈ body, Derives item.1 item.2) → stop.kind = .endMark →
    Derives (opener :: name :: (parameters ++ start :: (body.flatMap Prod.fst ++ [stop])))
      (.function name.lexeme (parameters.map Token.lexeme) (body.map Prod.snd))
  /-- A call. -/
  | call {opener name stop : Token} {arguments : List (List Token × Expr)} :
    opener.kind = .call → name.kind = .identifier →
    (∀ item ∈ arguments, Derives item.1 item.2) → stop.kind = .callEndMark →
    Derives (opener :: name :: (arguments.flatMap Prod.fst ++ [stop]))
      (.call name.lexeme (arguments.map Prod.snd))
  /-- A condition with one branch. -/
  | chooseOne {opener thenMark fiMark : Token} {conditionWords trueWords : List Token}
    {condition whenTrue : Expr} : opener.kind = .ifMark → Derives conditionWords condition →
    thenMark.kind = .thenMark → Derives trueWords whenTrue → fiMark.kind = .fiMark →
    Derives (opener :: (conditionWords ++ thenMark :: (trueWords ++ [fiMark])))
      (.choose condition whenTrue (.literal (.boolean false)))
  /-- A condition with two branches. -/
  | chooseTwo {opener thenMark elseMark fiMark : Token}
    {conditionWords trueWords falseWords : List Token} {condition whenTrue whenFalse : Expr} :
    opener.kind = .ifMark → Derives conditionWords condition → thenMark.kind = .thenMark →
    Derives trueWords whenTrue → elseMark.kind = .elseMark → Derives falseWords whenFalse →
    fiMark.kind = .fiMark →
    Derives (opener :: (conditionWords ++ thenMark ::
      (trueWords ++ elseMark :: (falseWords ++ [fiMark])))) (.choose condition whenTrue whenFalse)

namespace Parser

variable {α : Type}

/-! ## Single steps -/

/-- The next token is taken, whether it is an identifier or not. -/
@[simp] theorem identifier_cons (missing : ParseError) (invalid : String → ParseError)
    (token : Token) (rest : Buffer) :
    identifier missing invalid (token :: rest) =
      if token.kind = .identifier then .ok token.lexeme rest
      else .error (.refused (invalid token.lexeme)) rest := by
  change (if token.kind = .identifier then pure token.lexeme
    else refuse (invalid token.lexeme) : Parser String) rest = _
  split <;> rfl

/-- The next token is taken, whether it is a new name or not. -/
@[simp] theorem newName_cons (role : NameRole) (missing : ParseError) (token : Token)
    (rest : Buffer) :
    newName role missing (token :: rest) =
      if Kind.isReserved token.lexeme then .error (.refused (.reservedName role token.lexeme)) rest
      else if token.kind = .identifier then .ok token.lexeme rest
      else .error (.refused (.invalidName role token.lexeme)) rest := by
  change (if Kind.isReserved token.lexeme then refuse (.reservedName role token.lexeme)
    else if token.kind = .identifier then pure token.lexeme
    else refuse (.invalidName role token.lexeme) : Parser String) rest = _
  split
  · rfl
  · split <;> rfl

/-- The next token is taken if it is the mark. -/
@[simp] theorem closePart_cons (mark : Mark) (token : Token) (rest : Buffer) :
    closePart mark (token :: rest) =
      if token.kind = markKind mark then .ok () rest
      else .error (.refused (.expectedMark mark)) (token :: rest) := by
  change (if token.kind = markKind mark then skip else refuse (.expectedMark mark) : Parser Unit)
    (token :: rest) = _
  split <;> rfl

/-- The next token is taken if it is one of the two marks. -/
@[simp] theorem closeBranch_cons (token : Token) (rest : Buffer) :
    closeBranch (token :: rest) =
      if token.kind = .elseMark then .ok false rest
      else if token.kind = .fiMark then .ok true rest
      else .error (.refused (.expectedMark .elseMark)) (token :: rest) := by
  change (if token.kind = .elseMark then (do skip; return false)
    else if token.kind = .fiMark then (do skip; return true)
    else refuse (.expectedMark .elseMark) : Parser Bool) (token :: rest) = _
  split
  · rfl
  · split <;> rfl

/-- The next token closes the list of items or starts one more item. -/
theorem rounds_cons (item : Parser α) (close : Kind) (unclosed : ParseError) (count : Nat)
    (token : Token) (rest : Buffer) :
    itemsUntil.rounds item close unclosed (count + 1) (token :: rest) =
      if token.kind = close then .ok [] rest
      else (do
        let first ← item
        return first :: (← itemsUntil.rounds item close unclosed count)) (token :: rest) := by
  change (if token.kind = close then (do skip; return []) else _ : Parser (List α))
    (token :: rest) = _
  split <;> rfl

/-- A list of items has one round more than there are tokens. -/
theorem itemsUntil_apply (item : Parser α) (close : Kind) (unclosed : ParseError)
    (buffer : Buffer) :
    itemsUntil item close unclosed buffer =
      itemsUntil.rounds item close unclosed (buffer.length + 1) buffer := rfl

/-- The next token decides the form of an expression. -/
@[simp] theorem expr_cons (budget : Nat) (token : Token) (rest : Buffer) :
    expr (budget + 1) (token :: rest) = form (expr budget) token rest := rfl

/-! ## What is read is a sentence -/

/-- The words with values are those that stand for them. -/
theorem literalValue?_eq_some_iff {word : String} {value : Value} :
    literalValue? word = some value ↔ IsLiteral word value := by
  constructor
  · intro found
    unfold literalValue? at found
    split at found
    · rename_i same
      cases found
      rw [same]
      exact .truth
    · split at found
      · rename_i same
        cases found
        rw [same]
        exact .falsehood
      · obtain ⟨numeral, read, rfl⟩ := Option.map_eq_some_iff.mp found
        exact .numeral read
  · intro stands
    cases stands with
    | truth => rfl
    | falsehood => rfl
    | numeral read => exact literalValue?_of_numeral read

/-- An identifier that was read stood in front. -/
theorem of_identifier_eq_ok {missing : ParseError} {invalid : String → ParseError} {name : String}
    {buffer rest : Buffer} (read : identifier missing invalid buffer = .ok name rest) :
    ∃ token, buffer = token :: rest ∧ token.kind = .identifier ∧ token.lexeme = name := by
  cases buffer with
  | nil => cases read
  | cons token tail =>
    rw [identifier_cons] at read
    split at read
    · rename_i named
      cases read
      exact ⟨token, rfl, named, rfl⟩
    · cases read

/-- A new name that was read stood in front. -/
theorem of_newName_eq_ok {role : NameRole} {missing : ParseError} {name : String}
    {buffer rest : Buffer} (read : newName role missing buffer = .ok name rest) :
    ∃ token, buffer = token :: rest ∧ token.kind = .identifier ∧ token.lexeme = name := by
  cases buffer with
  | nil => cases read
  | cons token tail =>
    rw [newName_cons] at read
    split at read
    · cases read
    · split at read
      · rename_i named
        cases read
        exact ⟨token, rfl, named, rfl⟩
      · cases read

/-- A mark that was read stood in front. -/
theorem of_closePart_eq_ok {mark : Mark} {buffer rest : Buffer}
    (read : closePart mark buffer = .ok () rest) :
    ∃ token, buffer = token :: rest ∧ token.kind = markKind mark := by
  cases buffer with
  | nil => cases read
  | cons token tail =>
    rw [closePart_cons] at read
    split at read
    · rename_i marked
      cases read
      exact ⟨token, rfl, marked⟩
    · cases read

/-- The mark that closed the first branch stood in front. -/
theorem of_closeBranch_eq_ok {closed : Bool} {buffer rest : Buffer}
    (read : closeBranch buffer = .ok closed rest) :
    ∃ token, buffer = token :: rest ∧
      token.kind = if closed = true then .fiMark else .elseMark := by
  cases buffer with
  | nil => cases read
  | cons token tail =>
    rw [closeBranch_cons] at read
    split at read
    · rename_i marked
      cases read
      exact ⟨token, rfl, marked⟩
    · split at read
      · rename_i marked
        cases read
        exact ⟨token, rfl, marked⟩
      · cases read

/-- Items that were read stood in front, one after another, and a closing token after them. -/
theorem of_rounds_eq_ok {item : Parser α} {stands : List Token → α → Prop}
    (sound : ∀ {buffer result rest}, item buffer = .ok result rest →
      ∃ words, buffer = words ++ rest ∧ stands words result)
    {close : Kind} {unclosed : ParseError} {count : Nat} {items : List α} {buffer rest : Buffer}
    (read : itemsUntil.rounds item close unclosed count buffer = .ok items rest) :
    ∃ (pairs : List (List Token × α)) (stop : Token),
      buffer = pairs.flatMap Prod.fst ++ stop :: rest ∧ stop.kind = close ∧
        items = pairs.map Prod.snd ∧ ∀ pair ∈ pairs, stands pair.1 pair.2 := by
  induction count generalizing items buffer with
  | zero => cases read
  | succ count ih =>
    cases buffer with
    | nil => cases read
    | cons token tail =>
      rw [rounds_cons] at read
      split at read
      · rename_i closes
        cases read
        exact ⟨[], token, rfl, closes, rfl, fun _ inside => absurd inside List.not_mem_nil⟩
      · obtain ⟨first, middle, readFirst, readRest⟩ := bind_eq_ok_iff.mp read
        obtain ⟨others, last, readOthers, ended⟩ := bind_eq_ok_iff.mp readRest
        cases ended
        obtain ⟨words, split, stood⟩ := sound readFirst
        obtain ⟨pairs, stop, splitRest, closes, rfl, stoodOthers⟩ := ih readOthers
        refine ⟨(words, first) :: pairs, stop, ?_, closes, rfl, ?_⟩
        · rw [split, splitRest, List.flatMap_cons, List.append_assoc]
        · intro pair inside
          rcases List.mem_cons.mp inside with rfl | inside
          · exact stood
          · exact stoodOthers pair inside

/-- Names that were read one by one are the words of identifiers. -/
theorem parameters_of_pairs {pairs : List (List Token × String)}
    (named : ∀ pair ∈ pairs, ∃ token : Token, pair.1 = [token] ∧ token.kind = .identifier ∧
      token.lexeme = pair.2) :
    (∀ token ∈ pairs.flatMap Prod.fst, token.kind = .identifier) ∧
      pairs.map Prod.snd = (pairs.flatMap Prod.fst).map Token.lexeme := by
  induction pairs with
  | nil => simp
  | cons pair rest ih =>
    obtain ⟨kinds, names⟩ := ih fun other inside => named other (List.mem_cons_of_mem pair inside)
    obtain ⟨token, alone, kind, name⟩ := named pair List.mem_cons_self
    constructor
    · intro other inside
      rw [List.flatMap_cons, alone] at inside
      rcases List.mem_cons.mp inside with rfl | inside
      · exact kind
      · exact kinds other inside
    · rw [List.flatMap_cons, alone, List.map_cons, names, ← name]
      rfl

/-- Whether what a parser reads off the front is a sentence. -/
def ReadsSentences (inner : Parser Expr) : Prop :=
  ∀ {buffer code rest}, inner buffer = .ok code rest →
    ∃ words, buffer = words ++ rest ∧ Derives words code

section

variable {inner : Parser Expr} {opener : Token} {buffer rest : Buffer} {code : Expr}

/-- What is read as a function definition is one. -/
theorem of_function_eq_ok (sound : ReadsSentences inner) (opens : opener.kind = .function)
    (read : function inner buffer = .ok code rest) :
    ∃ words, buffer = words ++ rest ∧ Derives (opener :: words) code := by
  obtain ⟨name, first, readName, read⟩ := bind_eq_ok_iff.mp read
  obtain ⟨names, second, readNames, read⟩ := bind_eq_ok_iff.mp read
  obtain ⟨body, third, readBody, read⟩ := bind_eq_ok_iff.mp read
  cases read
  obtain ⟨nameToken, rfl, nameKind, rfl⟩ := of_newName_eq_ok readName
  have single : ∀ {buffer name rest}, newName .parameter .openParameters buffer = .ok name rest →
      ∃ words, buffer = words ++ rest ∧
        ∃ token, words = [token] ∧ token.kind = .identifier ∧ token.lexeme = name := by
    intro buffer name rest readOne
    obtain ⟨token, rfl, kind, rfl⟩ := of_newName_eq_ok readOne
    exact ⟨[token], rfl, token, rfl, kind, rfl⟩
  obtain ⟨parameters, start, rfl, starts, rfl, named⟩ := of_rounds_eq_ok single readNames
  obtain ⟨items, stop, rfl, stops, rfl, stood⟩ := of_rounds_eq_ok sound readBody
  obtain ⟨kinds, names⟩ := parameters_of_pairs named
  refine ⟨nameToken :: (parameters.flatMap Prod.fst ++ start :: (items.flatMap Prod.fst ++ [stop])),
    by simp, ?_⟩
  rw [names]
  exact .function opens nameKind kinds starts stood stops

/-- What is read as a call is one. -/
theorem of_call_eq_ok (sound : ReadsSentences inner) (opens : opener.kind = .call)
    (read : call inner buffer = .ok code rest) :
    ∃ words, buffer = words ++ rest ∧ Derives (opener :: words) code := by
  obtain ⟨name, first, readName, read⟩ := bind_eq_ok_iff.mp read
  obtain ⟨arguments, second, readArguments, read⟩ := bind_eq_ok_iff.mp read
  cases read
  obtain ⟨nameToken, rfl, nameKind, rfl⟩ := of_identifier_eq_ok readName
  obtain ⟨items, stop, rfl, stops, rfl, stood⟩ := of_rounds_eq_ok sound readArguments
  exact ⟨nameToken :: (items.flatMap Prod.fst ++ [stop]), by simp, .call opens nameKind stood stops⟩

/-- What is read as a condition is one. -/
theorem of_condition_eq_ok (sound : ReadsSentences inner) (opens : opener.kind = .ifMark)
    (read : condition inner buffer = .ok code rest) :
    ∃ words, buffer = words ++ rest ∧ Derives (opener :: words) code := by
  obtain ⟨test, first, readTest, read⟩ := bind_eq_ok_iff.mp read
  obtain ⟨_, second, readThen, read⟩ := bind_eq_ok_iff.mp read
  obtain ⟨whenTrue, third, readTrue, read⟩ := bind_eq_ok_iff.mp read
  obtain ⟨closed, fourth, readClose, read⟩ := bind_eq_ok_iff.mp read
  obtain ⟨testWords, rfl, testStood⟩ := sound readTest
  obtain ⟨thenMark, rfl, thenKind⟩ := of_closePart_eq_ok readThen
  obtain ⟨trueWords, rfl, trueStood⟩ := sound readTrue
  obtain ⟨mark, rfl, markKind⟩ := of_closeBranch_eq_ok readClose
  cases closed with
  | true =>
    cases read
    exact ⟨testWords ++ thenMark :: (trueWords ++ [mark]), by simp,
      .chooseOne opens testStood thenKind trueStood markKind⟩
  | false =>
    obtain ⟨whenFalse, fifth, readFalse, read⟩ := bind_eq_ok_iff.mp read
    obtain ⟨_, sixth, readFi, read⟩ := bind_eq_ok_iff.mp read
    cases read
    obtain ⟨falseWords, rfl, falseStood⟩ := sound readFalse
    obtain ⟨fiMark, rfl, fiKind⟩ := of_closePart_eq_ok readFi
    exact ⟨testWords ++ thenMark :: (trueWords ++ mark :: (falseWords ++ [fiMark])), by simp,
      .chooseTwo opens testStood thenKind trueStood markKind falseStood fiKind⟩

/-- What is read behind the token that opens an expression makes a sentence with it. -/
theorem of_form_eq_ok (sound : ReadsSentences inner)
    (read : form inner opener buffer = .ok code rest) :
    ∃ words, buffer = words ++ rest ∧ Derives (opener :: words) code := by
  cases opens : opener.kind with
  | literal =>
    simp only [form, opens, literal] at read
    cases found : literalValue? opener.lexeme with
    | some value =>
      simp only [found] at read
      cases read
      exact ⟨[], rfl, .literal opens (literalValue?_eq_some_iff.mp found)⟩
    | none =>
      simp only [found] at read
      cases read
  | constant =>
    simp only [form, opens, constant] at read
    cases found : Constant.ofSymbol? opener.lexeme with
    | some value =>
      simp only [found] at read
      cases read
      exact ⟨[], rfl, .constant opens found⟩
    | none =>
      simp only [found] at read
      cases read
  | identifier =>
    simp only [form, opens] at read
    cases read
    exact ⟨[], rfl, .get opens⟩
  | define =>
    simp only [form, opens] at read
    obtain ⟨name, middle, readName, read⟩ := bind_eq_ok_iff.mp read
    obtain ⟨value, last, readValue, read⟩ := bind_eq_ok_iff.mp read
    cases read
    obtain ⟨nameToken, rfl, nameKind, rfl⟩ := of_identifier_eq_ok readName
    obtain ⟨words, rfl, stood⟩ := sound readValue
    exact ⟨nameToken :: words, rfl, .define opens nameKind stood⟩
  | assign =>
    simp only [form, opens] at read
    obtain ⟨name, middle, readName, read⟩ := bind_eq_ok_iff.mp read
    obtain ⟨value, last, readValue, read⟩ := bind_eq_ok_iff.mp read
    cases read
    obtain ⟨nameToken, rfl, nameKind, rfl⟩ := of_identifier_eq_ok readName
    obtain ⟨words, rfl, stood⟩ := sound readValue
    exact ⟨nameToken :: words, rfl, .assign opens nameKind stood⟩
  | binaryOp =>
    simp only [form, opens] at read
    cases found : BinaryOp.ofSymbol? opener.lexeme with
    | some operator =>
      simp only [found] at read
      obtain ⟨left, middle, readLeft, read⟩ := bind_eq_ok_iff.mp read
      obtain ⟨right, last, readRight, read⟩ := bind_eq_ok_iff.mp read
      cases read
      obtain ⟨leftWords, rfl, leftStood⟩ := sound readLeft
      obtain ⟨rightWords, rfl, rightStood⟩ := sound readRight
      exact ⟨leftWords ++ rightWords, by simp, .binary opens found leftStood rightStood⟩
    | none =>
      simp only [found] at read
      cases read
  | unaryOp =>
    simp only [form, opens] at read
    cases found : UnaryOp.ofSymbol? opener.lexeme with
    | some operator =>
      simp only [found] at read
      obtain ⟨operand, last, readOperand, read⟩ := bind_eq_ok_iff.mp read
      cases read
      obtain ⟨words, rfl, stood⟩ := sound readOperand
      exact ⟨words, rfl, .unary opens found stood⟩
    | none =>
      simp only [found] at read
      cases read
  | special =>
    simp only [form, opens] at read
    split at read
    · obtain ⟨value, last, readValue, read⟩ := bind_eq_ok_iff.mp read
      cases read
      obtain ⟨words, rfl, stood⟩ := sound readValue
      exact ⟨words, rfl, .print opens stood⟩
    · cases read
  | function =>
    simp only [form, opens] at read
    exact of_function_eq_ok sound opens read
  | call =>
    simp only [form, opens] at read
    exact of_call_eq_ok sound opens read
  | ifMark =>
    simp only [form, opens] at read
    exact of_condition_eq_ok sound opens read
  | _ =>
    simp only [form, opens] at read
    cases read

end

/-- What is read as an expression is a sentence. -/
theorem derives_of_expr_eq_ok (budget : Nat) : ReadsSentences (expr budget) := by
  induction budget with
  | zero =>
    intro buffer code rest read
    cases read
  | succ budget ih =>
    intro buffer code rest read
    cases buffer with
    | nil => cases read
    | cons token tail =>
      rw [expr_cons] at read
      obtain ⟨words, rfl, stood⟩ := of_form_eq_ok ih read
      exact ⟨token :: words, rfl, stood⟩

end Parser

end PrefixCalc
