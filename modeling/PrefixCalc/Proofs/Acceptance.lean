import PrefixCalc.Proofs.Grammar
import PrefixCalc.Proofs.Lexed
import PrefixCalc.Reading

/-!
# The parser accepts exactly the grammar

Of tokens as they come from texts, the parser reads every sentence, wherever it
stands and whatever follows it (`Derives.reads`). What it reads is a sentence, so it
accepts the grammar and nothing else, no list of tokens stands for two expressions,
and no sentence goes on behind another one.
-/

namespace PrefixCalc

namespace Parser

variable {α : Type}

/-! ## Every sentence is read -/

/-- Items that stand one after another are read, and so is the closing token after them, if each
item is read wherever it stands and none starts with a closing token. -/
theorem rounds_eq_ok {item : Parser α} {close : Kind} {unclosed : ParseError}
    {pairs : List (List Token × α)} {stop : Token}
    (reads : ∀ pair ∈ pairs, ∀ rest, item (pair.1 ++ rest) = .ok pair.2 rest)
    (starts : ∀ pair ∈ pairs, ∃ token tail, pair.1 = token :: tail ∧ token.kind ≠ close)
    (closes : stop.kind = close) {count : Nat} (enough : (pairs.flatMap Prod.fst).length < count)
    (rest : Buffer) :
    itemsUntil.rounds item close unclosed count (pairs.flatMap Prod.fst ++ stop :: rest) =
      .ok (pairs.map Prod.snd) rest := by
  induction pairs generalizing count with
  | nil =>
    obtain ⟨count, rfl⟩ : ∃ fewer, count = fewer + 1 := ⟨count - 1, by omega⟩
    rw [List.flatMap_nil, List.nil_append, rounds_cons, if_pos closes]
    rfl
  | cons pair others ih =>
    obtain ⟨count, rfl⟩ : ∃ fewer, count = fewer + 1 := ⟨count - 1, by omega⟩
    obtain ⟨token, tail, head, different⟩ := starts pair List.mem_cons_self
    rw [List.flatMap_cons, head, List.length_append, List.length_cons] at enough
    have fewer : (others.flatMap Prod.fst).length < count := by omega
    have later := ih (fun other inside => reads other (List.mem_cons_of_mem pair inside))
      (fun other inside => starts other (List.mem_cons_of_mem pair inside)) fewer
    have first := reads pair List.mem_cons_self (others.flatMap Prod.fst ++ stop :: rest)
    rw [List.flatMap_cons, List.append_assoc]
    rw [head] at first ⊢
    rw [List.cons_append] at first ⊢
    rw [rounds_cons, if_neg different, bind_of_ok first, bind_of_ok later]
    rfl

/-- A list of items is read, with rounds to spare. -/
theorem itemsUntil_eq_ok {item : Parser α} {close : Kind} {unclosed : ParseError}
    {pairs : List (List Token × α)} {stop : Token}
    (reads : ∀ pair ∈ pairs, ∀ rest, item (pair.1 ++ rest) = .ok pair.2 rest)
    (starts : ∀ pair ∈ pairs, ∃ token tail, pair.1 = token :: tail ∧ token.kind ≠ close)
    (closes : stop.kind = close) (rest : Buffer) :
    itemsUntil item close unclosed (pairs.flatMap Prod.fst ++ stop :: rest) =
      .ok (pairs.map Prod.snd) rest := by
  rw [itemsUntil_apply]
  refine rounds_eq_ok reads starts closes ?_ rest
  rw [List.length_append]
  omega

/-- Parameters that stand one after another are read, and so is the token that opens the body. -/
theorem parameters_eq_ok {parameters : List Token} {start : Token}
    (lexed : ∀ token ∈ parameters, token.Lexed)
    (kinds : ∀ token ∈ parameters, token.kind = .identifier) (starts : start.kind = .beginMark)
    (rest : Buffer) :
    itemsUntil (newName .parameter .openParameters) .beginMark .openParameters
      (parameters ++ start :: rest) = .ok (parameters.map Token.lexeme) rest := by
  let pairs := parameters.map fun token => ([token], token.lexeme)
  have words : pairs.flatMap Prod.fst = parameters := by simp [pairs, List.flatMap_map]
  have names : pairs.map Prod.snd = parameters.map Token.lexeme := by simp [pairs]
  rw [← names]
  conv => lhs; rw [← words]
  refine itemsUntil_eq_ok (fun pair inside rest => ?_) (fun pair inside => ?_) starts rest
  · obtain ⟨token, listed, rfl⟩ := List.mem_map.mp inside
    simp [kinds token listed, (lexed token listed).free (kinds token listed)]
  · obtain ⟨token, listed, rfl⟩ := List.mem_map.mp inside
    exact ⟨token, [], rfl, by simp [kinds token listed]⟩

/-- A function definition is read if the expressions of its body are. -/
theorem function_eq_ok {inner : Parser Expr} {name start stop : Token} {parameters : List Token}
    {body : List (List Token × Expr)} (lexed : ∀ token ∈ name :: parameters, token.Lexed)
    (named : name.kind = .identifier)
    (kinds : ∀ parameter ∈ parameters, parameter.kind = .identifier)
    (starts : start.kind = .beginMark)
    (reads : ∀ item ∈ body, ∀ rest, inner (item.1 ++ rest) = .ok item.2 rest)
    (heads : ∀ item ∈ body, ∃ token tail, item.1 = token :: tail ∧ token.kind ≠ .endMark)
    (stops : stop.kind = .endMark) (rest : Buffer) :
    function inner (name :: (parameters ++ start :: (body.flatMap Prod.fst ++ stop :: rest))) =
      .ok (.function name.lexeme (parameters.map Token.lexeme) (body.map Prod.snd)) rest := by
  have readName : newName .function .unnamedFunction
      (name :: (parameters ++ start :: (body.flatMap Prod.fst ++ stop :: rest))) =
        .ok name.lexeme (parameters ++ start :: (body.flatMap Prod.fst ++ stop :: rest)) := by
    rw [newName_cons, if_neg (by simp [(lexed name List.mem_cons_self).free named]), if_pos named]
  have readParameters := parameters_eq_ok
    (fun token inside => lexed token (List.mem_cons_of_mem name inside)) kinds starts
    (body.flatMap Prod.fst ++ stop :: rest)
  unfold function
  rw [bind_of_ok readName, bind_of_ok readParameters,
    bind_of_ok (itemsUntil_eq_ok reads heads stops rest)]
  rfl

/-- A call is read if its arguments are. -/
theorem call_eq_ok {inner : Parser Expr} {name stop : Token}
    {arguments : List (List Token × Expr)} (named : name.kind = .identifier)
    (reads : ∀ item ∈ arguments, ∀ rest, inner (item.1 ++ rest) = .ok item.2 rest)
    (heads : ∀ item ∈ arguments, ∃ token tail, item.1 = token :: tail ∧ token.kind ≠ .callEndMark)
    (stops : stop.kind = .callEndMark) (rest : Buffer) :
    call inner (name :: (arguments.flatMap Prod.fst ++ stop :: rest)) =
      .ok (.call name.lexeme (arguments.map Prod.snd)) rest := by
  unfold call
  rw [bind_of_ok (by rw [identifier_cons, if_pos named]),
    bind_of_ok (itemsUntil_eq_ok reads heads stops rest)]
  rfl

/-- The mark that is asked for is read. -/
theorem closePart_eq_ok {mark : Mark} {token : Token} (marked : token.kind = markKind mark)
    (rest : Buffer) : closePart mark (token :: rest) = .ok () rest := by
  rw [closePart_cons, if_pos marked]

/-- Whether tokens are read as an expression wherever they stand, if they are as they come from
texts and there is one unit of budget for each of them. -/
def Reads (words : List Token) (code : Expr) : Prop :=
  (∀ token ∈ words, token.Lexed) → ∀ budget, words.length ≤ budget →
    ∀ rest, expr budget (words ++ rest) = .ok code rest

/-- An expression is read if what follows its first token is, by any parser that reads the parts
of what follows. -/
theorem Reads.cons {token : Token} {tail : List Token} {code : Expr}
    (read : ∀ inner : Parser Expr, (∀ each ∈ token :: tail, each.Lexed) →
      (∀ {words part}, Reads words part → words <:+: tail →
        ∀ rest, inner (words ++ rest) = .ok part rest) →
      ∀ rest, form inner token (tail ++ rest) = .ok code rest) :
    Reads (token :: tail) code := by
  intro lexed budget enough rest
  rw [List.length_cons] at enough
  obtain ⟨fewer, rfl⟩ : ∃ fewer, budget = fewer + 1 := ⟨budget - 1, by omega⟩
  rw [List.cons_append, expr_cons]
  refine read (expr fewer) lexed (fun reads within => ?_) rest
  have shorter := within.length_le
  refine reads (fun each inside => ?_) fewer (by omega)
  exact lexed each (List.mem_cons_of_mem token (within.subset inside))

/-- The tokens of one item stand together among those of all. -/
theorem infix_flatMap_fst {pairs : List (List Token × α)} {pair : List Token × α}
    (inside : pair ∈ pairs) : pair.1 <:+: pairs.flatMap Prod.fst := by
  rw [List.flatMap_def]
  exact List.infix_of_mem_flatten (List.mem_map_of_mem inside)

end Parser

/-- Whether an expression can start with a token of a kind. -/
def Kind.opensExpr : Kind → Bool
  | .literal | .constant | .identifier | .define | .assign | .binaryOp | .unaryOp | .special
  | .function | .call | .ifMark => true
  | _ => false

/-- A sentence starts with a token that opens an expression. -/
theorem Derives.exists_head {words : List Token} {code : Expr} (derives : Derives words code) :
    ∃ token tail, words = token :: tail ∧ token.kind.opensExpr = true := by
  cases derives <;> exact ⟨_, _, rfl, by simp only [*, Kind.opensExpr]⟩

/-- An expression does not start with a token that closes a list of items. -/
theorem Derives.exists_head_ne {words : List Token} {code : Expr} (derives : Derives words code)
    {close : Kind} (closes : close.opensExpr = false) :
    ∃ token tail, words = token :: tail ∧ token.kind ≠ close := by
  obtain ⟨token, tail, head, opens⟩ := derives.exists_head
  refine ⟨token, tail, head, fun same => ?_⟩
  rw [same, closes] at opens
  cases opens

/-- Every sentence is read. -/
theorem Derives.reads {words : List Token} {code : Expr} (derives : Derives words code) :
    Parser.Reads words code := by
  induction derives with
  | literal opens stands =>
    refine .cons fun inner _ _ rest => ?_
    simp only [Parser.form, opens, Parser.literal, Parser.literalValue?_eq_some_iff.mpr stands]
    rfl
  | constant opens found =>
    refine .cons fun inner _ _ rest => ?_
    simp only [Parser.form, opens, Parser.constant, found]
    rfl
  | get opens =>
    refine .cons fun inner _ _ rest => ?_
    simp only [Parser.form, opens]
    rfl
  | @define opener name words value opens named _ ih =>
    refine .cons fun inner _ part rest => ?_
    simp only [Parser.form, opens]
    rw [List.cons_append, bind_of_ok (by rw [Parser.identifier_cons, if_pos named]),
      bind_of_ok (part ih ⟨[name], [], by simp⟩ rest)]
    rfl
  | @assign opener name words value opens named _ ih =>
    refine .cons fun inner _ part rest => ?_
    simp only [Parser.form, opens]
    rw [List.cons_append, bind_of_ok (by rw [Parser.identifier_cons, if_pos named]),
      bind_of_ok (part ih ⟨[name], [], by simp⟩ rest)]
    rfl
  | @binary opener operator leftWords rightWords left right opens found _ _ ihLeft ihRight =>
    refine .cons fun inner _ part rest => ?_
    have readLeft := part ihLeft ⟨[], rightWords, by simp⟩ (rightWords ++ rest)
    have readRight := part ihRight ⟨leftWords, [], by simp⟩ rest
    simp only [Parser.form, opens, found]
    rw [List.append_assoc, bind_of_ok readLeft, bind_of_ok readRight]
    rfl
  | unary opens found _ ih =>
    refine .cons fun inner _ part rest => ?_
    simp only [Parser.form, opens, found]
    rw [bind_of_ok (part ih List.infix_rfl rest)]
    rfl
  | @print opener words value opens _ ih =>
    refine .cons fun inner lexed part rest => ?_
    simp only [Parser.form, opens, (lexed opener List.mem_cons_self).print opens, if_true]
    rw [bind_of_ok (part ih List.infix_rfl rest)]
    rfl
  | @function opener name start stop parameters body opens named kinds starts stood stops ih =>
    refine .cons fun inner lexed part rest => ?_
    have within : body.flatMap Prod.fst <:+:
        name :: (parameters ++ start :: (body.flatMap Prod.fst ++ [stop])) :=
      ⟨name :: (parameters ++ [start]), [stop], by simp⟩
    have names : ∀ token ∈ name :: parameters, token.Lexed := by
      intro token inside
      exact lexed token (List.mem_cons_of_mem opener
        ((List.prefix_append (name :: parameters) _).subset inside))
    have read := Parser.function_eq_ok names named kinds starts
      (fun item inside => part (ih item inside) ((Parser.infix_flatMap_fst inside).trans within))
      (fun item inside => (stood item inside).exists_head_ne rfl) stops rest
    simpa only [Parser.form, opens, List.cons_append, List.append_assoc, List.nil_append] using read
  | @call opener name stop arguments opens named stood stops ih =>
    refine .cons fun inner _ part rest => ?_
    have within : arguments.flatMap Prod.fst <:+: name :: (arguments.flatMap Prod.fst ++ [stop]) :=
      ⟨[name], [stop], by simp⟩
    have read := Parser.call_eq_ok named
      (fun item inside => part (ih item inside) ((Parser.infix_flatMap_fst inside).trans within))
      (fun item inside => (stood item inside).exists_head_ne rfl) stops rest
    simpa only [Parser.form, opens, List.cons_append, List.append_assoc, List.nil_append] using read
  | @chooseOne opener thenMark fiMark testWords trueWords test whenTrue opens _ thenKind _ fiKind
      ihTest ihTrue =>
    refine .cons fun inner _ part rest => ?_
    have readTest := part ihTest ⟨[], thenMark :: (trueWords ++ [fiMark]), by simp⟩
      (thenMark :: (trueWords ++ fiMark :: rest))
    have readTrue := part ihTrue ⟨testWords ++ [thenMark], [fiMark], by simp⟩ (fiMark :: rest)
    simp only [Parser.form, opens, List.cons_append, List.append_assoc, List.nil_append]
    unfold Parser.condition
    rw [bind_of_ok readTest, bind_of_ok (Parser.closePart_eq_ok thenKind _), bind_of_ok readTrue,
      bind_of_ok (by rw [Parser.closeBranch_cons, if_neg (by simp [fiKind]), if_pos fiKind])]
    rfl
  | @chooseTwo opener thenMark elseMark fiMark testWords trueWords falseWords test whenTrue
      whenFalse opens _ thenKind _ elseKind _ fiKind ihTest ihTrue ihFalse =>
    refine .cons fun inner _ part rest => ?_
    have readTest := part ihTest
      ⟨[], thenMark :: (trueWords ++ elseMark :: (falseWords ++ [fiMark])), by simp⟩
      (thenMark :: (trueWords ++ elseMark :: (falseWords ++ fiMark :: rest)))
    have readTrue := part ihTrue
      ⟨testWords ++ [thenMark], elseMark :: (falseWords ++ [fiMark]), by simp⟩
      (elseMark :: (falseWords ++ fiMark :: rest))
    have readFalse := part ihFalse
      ⟨testWords ++ thenMark :: (trueWords ++ [elseMark]), [fiMark], by simp⟩ (fiMark :: rest)
    simp only [Parser.form, opens, List.cons_append, List.append_assoc, List.nil_append]
    unfold Parser.condition
    rw [bind_of_ok readTest, bind_of_ok (Parser.closePart_eq_ok thenKind _), bind_of_ok readTrue,
      bind_of_ok (by rw [Parser.closeBranch_cons, if_pos elseKind]), if_neg Bool.false_ne_true,
      bind_of_ok readFalse, bind_of_ok (Parser.closePart_eq_ok fiKind rest)]
    rfl

/-! ## Nothing else is read -/

/-- With enough budget the parser reads an expression off the front of a buffer if and only if a
sentence for it stands there. -/
theorem Parser.expr_eq_ok_iff {buffer rest : Buffer} {code : Expr} {budget : Nat}
    (lexed : ∀ token ∈ buffer, token.Lexed) (enough : buffer.length ≤ budget) :
    Parser.expr budget buffer = .ok code rest ↔
      ∃ words, buffer = words ++ rest ∧ Derives words code := by
  constructor
  · exact Parser.derives_of_expr_eq_ok budget
  · rintro ⟨words, rfl, derives⟩
    rw [List.length_append] at enough
    exact derives.reads (fun token inside => lexed token (List.mem_append_left rest inside)) budget
      (by omega) rest

/-- A sentence that starts with another one is that one. -/
theorem Derives.eq_of_append {words more : List Token} {code other : Expr}
    (lexed : ∀ token ∈ words ++ more, token.Lexed) (first : Derives words code)
    (second : Derives (words ++ more) other) : more = [] ∧ code = other := by
  have readFirst := (Parser.expr_eq_ok_iff lexed (Nat.le_refl _)).mpr ⟨words, rfl, first⟩
  have readSecond := (Parser.expr_eq_ok_iff lexed (Nat.le_refl _)).mpr
    ⟨words ++ more, (List.append_nil _).symm, second⟩
  cases readFirst.symm.trans readSecond
  exact ⟨rfl, rfl⟩

/-- No sentence awaits the end of a definition. -/
theorem Derives.awaitsEnd_eq_false {words : List Token} {code : Expr}
    (derives : Derives words code) : Buffer.awaitsEnd words = false := by
  cases derives with
  | function _ _ _ _ _ stops =>
    simp [Buffer.awaitsEnd, Buffer.endsWith, List.getLast?_cons, List.getLast?_append, stops]
  | _ => simp [Buffer.awaitsEnd, Buffer.startsWith, *]

/-- A whole buffer is read as an expression if the parser reads it and leaves nothing. -/
theorem Reading.fst_ofBuffer_eq_ok_iff {budget : Nat} {buffer : Buffer} {text : String}
    {code : Expr} : (Reading.ofBuffer budget buffer text).1 = .ok (some code) ↔
      Parser.expr budget buffer = .ok code [] := by
  unfold Reading.ofBuffer
  split <;> rename_i read <;> simp [read]

/-- A text alone is read as an expression if and only if its tokens are a sentence for it. -/
theorem Reading.outcome_ofText_eq_ok_iff {budget : Nat} {text : String} {code : Expr}
    (enough : ∀ tokens, Token.scan text = .ok tokens → tokens.length ≤ budget) :
    (Reading.ofText budget [] text).outcome = .ok (some code) ↔
      ∃ tokens, Token.scan text = .ok tokens ∧ Derives tokens code := by
  cases scanned : Token.scan text with
  | error error => cases error <;> simp [Reading.ofText_of_error scanned, Reading.ofScanError]
  | ok tokens =>
    have exact : Parser.expr budget tokens = .ok code [] ↔ Derives tokens code := by
      rw [Parser.expr_eq_ok_iff (Token.scan_lexed scanned) (enough tokens scanned)]
      simp
    by_cases awaits : Buffer.awaitsEnd tokens = true
    · have barren : ¬ Derives tokens code := fun derives => by
        rw [derives.awaitsEnd_eq_false] at awaits
        cases awaits
      simp [Reading.ofText_of_ok scanned, Reading.ofWaiting, awaits, barren]
    · simp [Reading.ofText_of_ok scanned, Reading.ofWaiting, awaits,
        Reading.fst_ofBuffer_eq_ok_iff, exact]

/-- The parser accepts exactly the grammar, without ambiguity: of tokens as they come from texts it
reads the sentence that stands in front, if there is one, and no sentence goes on behind another. -/
theorem Parser.reads_exactly_sentences :
    (∀ (buffer rest : Buffer) (code : Expr) (budget : Nat), (∀ token ∈ buffer, token.Lexed) →
      buffer.length ≤ budget → (Parser.expr budget buffer = .ok code rest ↔
        ∃ words, buffer = words ++ rest ∧ Derives words code)) ∧
    (∀ (words : List Token) (code other : Expr), (∀ token ∈ words, token.Lexed) →
      Derives words code → Derives words other → code = other) ∧
    (∀ (words more : List Token) (code other : Expr), (∀ token ∈ words ++ more, token.Lexed) →
      Derives words code → Derives (words ++ more) other → more = []) ∧
    (∀ (text : String) (code : Expr) (budget : Nat),
      (∀ tokens, Token.scan text = .ok tokens → tokens.length ≤ budget) →
      ((Reading.ofText budget [] text).outcome = .ok (some code) ↔
        ∃ tokens, Token.scan text = .ok tokens ∧ Derives tokens code)) := by
  refine ⟨fun buffer rest code budget lexed enough => Parser.expr_eq_ok_iff lexed enough, ?_,
    fun words more code other lexed first second => (first.eq_of_append lexed second).1,
    fun text code budget enough => Reading.outcome_ofText_eq_ok_iff enough⟩
  intro words code other lexed first second
  rw [← List.append_nil words] at lexed second
  exact (first.eq_of_append lexed second).2

/-- A condition with one branch is read, alone and from its text, as the only expression its tokens
stand for. -/
theorem Parser.reads_exactly_sentences_condition :
    ∃ (words : List Token) (code : Expr), Token.scan "if x ? y fi" = .ok words ∧
      (∀ token ∈ words, token.Lexed) ∧ words.length ≤ 5 ∧ Parser.expr 5 words = .ok code [] ∧
      (∀ other, Derives words other → code = other) ∧
      (Reading.ofText 5 [] "if x ? y fi").outcome = .ok (some code) := by
  let words : List Token := [⟨.ifMark, "if", 1⟩, ⟨.identifier, "x", 4⟩, ⟨.thenMark, "?", 6⟩,
    ⟨.identifier, "y", 8⟩, ⟨.fiMark, "fi", 10⟩]
  have scanned : Token.scan "if x ? y fi" = .ok words := rfl
  have lexed : ∀ token ∈ words, token.Lexed := by decide +kernel
  have derives : Derives words (.choose (.get "x") (.get "y") (.literal (.boolean false))) :=
    @Derives.chooseOne _ _ _ [⟨.identifier, "x", 4⟩] [⟨.identifier, "y", 8⟩] _ _ rfl (.get rfl) rfl
      (.get rfl) rfl
  obtain ⟨reads, unique, -, whole⟩ := Parser.reads_exactly_sentences
  refine ⟨words, _, scanned, lexed, Nat.le_refl 5, ?_,
    fun other => unique words _ other lexed derives, ?_⟩
  · exact (reads words [] _ 5 lexed (Nat.le_refl 5)).mpr
      ⟨words, (List.append_nil words).symm, derives⟩
  · refine (whole _ _ 5 fun tokens same => ?_).mpr ⟨words, scanned, derives⟩
    cases scanned.symm.trans same
    exact Nat.le_refl 5

end PrefixCalc
