import PrefixCalc.Proofs.Phrase

/-!
# The forms of expressions as phrases

What stands behind the first token of an expression is a phrase of its own: the kind
of that token decides which (`Phrase.behind`). One lemma for each form says so, and
turns the productions of the grammar into phrases that follow one another.
-/

namespace PrefixCalc

namespace Phrase

variable {α β : Type} {words : List Token}

/-- The tokens of a phrase stand for what is made of its result. -/
theorem followedBy_known_iff {phrase : Phrase α} {make : α → β} {result : β} :
    phrase.followedBy (fun middle => known (make middle)) words result ↔
      ∃ middle, phrase words middle ∧ result = make middle := by
  constructor
  · rintro ⟨front, _, middle, rfl, stood, rfl, rfl⟩
    rw [List.append_nil]
    exact ⟨middle, stood, rfl⟩
  · rintro ⟨middle, stood, rfl⟩
    exact ⟨words, [], middle, (List.append_nil words).symm, stood, rfl, rfl⟩

/-- A token and what follows it. -/
theorem single_followedBy_iff {read : Token → Option α} {follower : α → Phrase β} {result : β} :
    (single read).followedBy follower words result ↔
      ∃ token tail middle, words = token :: tail ∧ read token = some middle ∧
        follower middle tail result := by
  constructor
  · rintro ⟨_, tail, middle, rfl, ⟨token, rfl, found⟩, stood⟩
    exact ⟨token, tail, middle, rfl, found, stood⟩
  · rintro ⟨token, tail, middle, rfl, found, stood⟩
    exact ⟨[token], tail, middle, rfl, ⟨token, rfl, found⟩, stood⟩

/-! ## The forms of expressions -/

/-- A name. -/
def name : Phrase String :=
  single fun token => if token.kind = .identifier then some token.lexeme else none

/-- The mark that closes a part of a condition. -/
def mark (which : Mark) : Phrase Unit :=
  single fun token => if token.kind = Parser.markKind which then some () else none

/-- The mark that closes the first branch; `true` if it closes the condition too. -/
def branchMark : Phrase Bool :=
  single fun token =>
    if token.kind = .elseMark then some false
    else if token.kind = .fiMark then some true
    else none

/-- What stands behind the first token of an expression. -/
def behind (opener : Token) : Phrase Expr :=
  fun words code => Derives (opener :: words) code

/-- What follows `if`. -/
def condition : Phrase Expr :=
  followedBy Derives fun condition => (mark .thenMark).followedBy fun _ =>
    followedBy Derives fun whenTrue => branchMark.followedBy fun closed =>
      if closed = true then known (.choose condition whenTrue Expr.noBranch)
      else followedBy Derives fun whenFalse => (mark .fiMark).followedBy fun _ =>
        known (.choose condition whenTrue whenFalse)

/-- What follows `def`. -/
def function : Phrase Expr :=
  name.followedBy fun title => (name.upTo .beginMark).followedBy fun parameters =>
    (upTo Derives .endMark).followedBy fun body => known (.function title parameters body)

/-- What follows `call`. -/
def call : Phrase Expr :=
  name.followedBy fun title => (upTo Derives .callEndMark).followedBy fun arguments =>
    known (.call title arguments)

/-- A name and what follows it. -/
theorem name_followedBy_iff {follower : String → Phrase β} {result : β} :
    name.followedBy follower words result ↔
      ∃ token tail, words = token :: tail ∧ token.kind = .identifier ∧
        follower token.lexeme tail result := by
  rw [name, single_followedBy_iff]
  simp [and_assoc]

/-- A mark and what follows it. -/
theorem mark_followedBy_iff {which : Mark} {follower : Unit → Phrase β} {result : β} :
    (mark which).followedBy follower words result ↔
      ∃ token tail, words = token :: tail ∧ token.kind = Parser.markKind which ∧
        follower () tail result := by
  rw [mark, single_followedBy_iff]
  constructor
  · rintro ⟨token, tail, _, rfl, found, stood⟩
    exact ⟨token, tail, rfl, by simpa using found, stood⟩
  · rintro ⟨token, tail, rfl, kind, stood⟩
    exact ⟨token, tail, (), rfl, if_pos kind, stood⟩

/-- The mark that closes the first branch and what follows it. -/
theorem branchMark_followedBy_iff {follower : Bool → Phrase β} {result : β} :
    branchMark.followedBy follower words result ↔
      ∃ token tail, words = token :: tail ∧
        (token.kind = .elseMark ∧ follower false tail result ∨
          token.kind = .fiMark ∧ follower true tail result) := by
  rw [branchMark, single_followedBy_iff]
  constructor
  · rintro ⟨token, tail, closed, rfl, found, stood⟩
    refine ⟨token, tail, rfl, ?_⟩
    split at found
    · rename_i isElse
      cases found
      exact .inl ⟨isElse, stood⟩
    · split at found
      · rename_i isFi
        cases found
        exact .inr ⟨isFi, stood⟩
      · cases found
  · rintro ⟨token, tail, rfl, ⟨isElse, stood⟩ | ⟨isFi, stood⟩⟩
    · exact ⟨token, tail, false, rfl, by simp [isElse], stood⟩
    · exact ⟨token, tail, true, rfl, by simp [isFi], stood⟩

/-- Names up to `begin` are the words of identifiers. -/
theorem name_upTo_iff {close : Kind} {names : List String} :
    name.upTo close words names ↔
      ∃ (parameters : List Token) (stop : Token), words = parameters ++ [stop] ∧
        stop.kind = close ∧ (∀ token ∈ parameters, token.kind = .identifier) ∧
        names = parameters.map Token.lexeme := by
  constructor
  · rintro ⟨pairs, stop, rfl, closes, rfl, stood⟩
    have named : ∀ pair ∈ pairs, ∃ token : Token, pair.1 = [token] ∧ token.kind = .identifier ∧
        token.lexeme = pair.2 := by
      intro pair inside
      obtain ⟨token, alone, found⟩ := stood pair inside
      refine ⟨token, alone, ?_⟩
      simpa using found
    obtain ⟨kinds, names⟩ := Parser.parameters_of_pairs named
    exact ⟨pairs.flatMap Prod.fst, stop, rfl, closes, kinds, names⟩
  · rintro ⟨parameters, stop, rfl, closes, kinds, rfl⟩
    refine ⟨parameters.map fun token => ([token], token.lexeme), stop, ?_, closes, ?_, ?_⟩
    · simp [List.flatMap_map]
    · simp
    · intro pair inside
      obtain ⟨token, listed, rfl⟩ := List.mem_map.mp inside
      exact ⟨token, rfl, by simp [kinds token listed]⟩

section

variable {opener : Token} {code : Expr}

/-- Behind a literal there is nothing. -/
theorem behind_literal_iff (opens : opener.kind = .literal) {value : Value}
    (found : Parser.literalValue? opener.lexeme = some value) :
    behind opener words code ↔ known (.literal value) words code := by
  constructor
  · intro derives
    cases derives with
    | literal _ stands =>
      rw [Parser.literalValue?_eq_some_iff.mpr stands] at found
      cases found
      exact ⟨rfl, rfl⟩
    | _ => simp_all
  · rintro ⟨rfl, rfl⟩
    exact .literal opens (Parser.literalValue?_eq_some_iff.mp found)

/-- Behind a constant there is nothing. -/
theorem behind_constant_iff (opens : opener.kind = .constant) {constant : Constant}
    (found : Constant.ofSymbol? opener.lexeme = some constant) :
    behind opener words code ↔ known (.literal (.number constant.value)) words code := by
  constructor
  · intro derives
    cases derives with
    | constant _ foundOther =>
      rw [found] at foundOther
      cases foundOther
      exact ⟨rfl, rfl⟩
    | _ => simp_all
  · rintro ⟨rfl, rfl⟩
    exact .constant opens found

/-- Behind a variable there is nothing. -/
theorem behind_get_iff (opens : opener.kind = .identifier) :
    behind opener words code ↔ known (.get opener.lexeme) words code := by
  constructor
  · intro derives
    cases derives with
    | get _ => exact ⟨rfl, rfl⟩
    | _ => simp_all
  · rintro ⟨rfl, rfl⟩
    exact .get opens

/-- Behind `var` there is a name and a value. -/
theorem behind_define_iff (opens : opener.kind = .define) :
    behind opener words code ↔
      name.followedBy (fun title => followedBy Derives fun value => known (.define title value))
        words code := by
  rw [name_followedBy_iff]
  simp only [followedBy_known_iff]
  constructor
  · intro derives
    cases derives with
    | define _ named stood => exact ⟨_, _, rfl, named, _, stood, rfl⟩
    | _ => simp_all
  · rintro ⟨token, tail, rfl, named, value, stood, rfl⟩
    exact .define opens named stood

/-- Behind `=` there is a name and a value. -/
theorem behind_assign_iff (opens : opener.kind = .assign) :
    behind opener words code ↔
      name.followedBy (fun title => followedBy Derives fun value => known (.assign title value))
        words code := by
  rw [name_followedBy_iff]
  simp only [followedBy_known_iff]
  constructor
  · intro derives
    cases derives with
    | assign _ named stood => exact ⟨_, _, rfl, named, _, stood, rfl⟩
    | _ => simp_all
  · rintro ⟨token, tail, rfl, named, value, stood, rfl⟩
    exact .assign opens named stood

/-- Behind a binary operator there are two operands. -/
theorem behind_binary_iff (opens : opener.kind = .binaryOp) {operator : BinaryOp}
    (found : BinaryOp.ofSymbol? opener.lexeme = some operator) :
    behind opener words code ↔
      followedBy Derives (fun left => followedBy Derives fun right =>
        known (.binary operator left right)) words code := by
  constructor
  · intro derives
    cases derives with
    | binary _ foundOther left right =>
      rw [found] at foundOther
      cases foundOther
      exact ⟨_, _, _, rfl, left, followedBy_known_iff.mpr ⟨_, right, rfl⟩⟩
    | _ => simp_all
  · rintro ⟨leftWords, rightWords, left, rfl, stoodLeft, stoodRest⟩
    obtain ⟨right, stoodRight, rfl⟩ := followedBy_known_iff.mp stoodRest
    exact .binary opens found stoodLeft stoodRight

/-- Behind a unary operator there is an operand. -/
theorem behind_unary_iff (opens : opener.kind = .unaryOp) {operator : UnaryOp}
    (found : UnaryOp.ofSymbol? opener.lexeme = some operator) :
    behind opener words code ↔
      followedBy Derives (fun operand => known (.unary operator operand)) words code := by
  rw [followedBy_known_iff]
  constructor
  · intro derives
    cases derives with
    | unary _ foundOther operand =>
      rw [found] at foundOther
      cases foundOther
      exact ⟨_, operand, rfl⟩
    | _ => simp_all
  · rintro ⟨operand, stood, rfl⟩
    exact .unary opens found stood

/-- Behind the word that prints there is a value. -/
theorem behind_print_iff (opens : opener.kind = .special) :
    behind opener words code ↔
      followedBy Derives (fun value => known (.print value)) words code := by
  rw [followedBy_known_iff]
  constructor
  · intro derives
    cases derives with
    | print _ stood => exact ⟨_, stood, rfl⟩
    | _ => simp_all
  · rintro ⟨value, stood, rfl⟩
    exact .print opens stood

/-- Behind `def` there is a name, parameters and a body. -/
theorem behind_function_iff (opens : opener.kind = .function) :
    behind opener words code ↔ function words code := by
  rw [function, name_followedBy_iff]
  constructor
  · intro derives
    cases derives with
    | @function _ name start stop parameters body _ named kinds starts stood stops =>
      refine ⟨name, _, rfl, named, parameters ++ [start], body.flatMap Prod.fst ++ [stop], _, ?_,
        name_upTo_iff.mpr ⟨parameters, start, rfl, starts, kinds, rfl⟩, ?_⟩
      · simp
      · exact followedBy_known_iff.mpr ⟨_, ⟨body, stop, rfl, stops, rfl, stood⟩, rfl⟩
    | _ => simp_all
  · rintro ⟨name, _, rfl, named, _, _, names, rfl, stoodNames, stoodBody⟩
    obtain ⟨parameters, start, rfl, starts, kinds, rfl⟩ := name_upTo_iff.mp stoodNames
    obtain ⟨_, ⟨body, stop, rfl, stops, rfl, stood⟩, rfl⟩ := followedBy_known_iff.mp stoodBody
    rw [List.append_assoc]
    exact .function opens named kinds starts stood stops

/-- Behind `call` there is a name and arguments. -/
theorem behind_call_iff (opens : opener.kind = .call) :
    behind opener words code ↔ call words code := by
  rw [call, name_followedBy_iff]
  simp only [followedBy_known_iff]
  constructor
  · intro derives
    cases derives with
    | @call _ name stop arguments _ named stood stops =>
      exact ⟨name, _, rfl, named, _, ⟨arguments, stop, rfl, stops, rfl, stood⟩, rfl⟩
    | _ => simp_all
  · rintro ⟨name, _, rfl, named, _, ⟨arguments, stop, rfl, stops, rfl, stood⟩, rfl⟩
    exact .call opens named stood stops

/-- Behind `if` there is a condition with one branch or two. -/
theorem behind_condition_iff (opens : opener.kind = .ifMark) :
    behind opener words code ↔ condition words code := by
  constructor
  · intro derives
    cases derives with
    | chooseOne _ test thenKind whenTrue fiKind =>
      refine ⟨_, _, _, rfl, test, mark_followedBy_iff.mpr ⟨_, _, rfl, thenKind, ?_⟩⟩
      refine ⟨_, _, _, rfl, whenTrue, branchMark_followedBy_iff.mpr ⟨_, _, rfl, ?_⟩⟩
      exact .inr ⟨fiKind, rfl, rfl⟩
    | chooseTwo _ test thenKind whenTrue elseKind whenFalse fiKind =>
      refine ⟨_, _, _, rfl, test, mark_followedBy_iff.mpr ⟨_, _, rfl, thenKind, ?_⟩⟩
      refine ⟨_, _, _, rfl, whenTrue, branchMark_followedBy_iff.mpr ⟨_, _, rfl, ?_⟩⟩
      refine .inl ⟨elseKind, ⟨_, _, _, rfl, whenFalse, mark_followedBy_iff.mpr ?_⟩⟩
      exact ⟨_, _, rfl, fiKind, rfl, rfl⟩
    | _ => simp_all
  · rintro ⟨testWords, _, test, rfl, stoodTest, closedTest⟩
    obtain ⟨thenMark, _, rfl, thenKind, trueWords, _, whenTrue, rfl, stoodTrue, closedTrue⟩ :=
      mark_followedBy_iff.mp closedTest
    obtain ⟨token, tail, rfl, ⟨elseKind, stoodElse⟩ | ⟨fiKind, rfl, rfl⟩⟩ :=
      branchMark_followedBy_iff.mp closedTrue
    · obtain ⟨falseWords, _, whenFalse, rfl, stoodFalse, closedFalse⟩ := stoodElse
      obtain ⟨fiMark, _, rfl, fiKind, rfl, rfl⟩ := mark_followedBy_iff.mp closedFalse
      exact .chooseTwo opens stoodTest thenKind stoodTrue elseKind stoodFalse fiKind
    · exact .chooseOne opens stoodTest thenKind stoodTrue fiKind

end

end Phrase

end PrefixCalc
