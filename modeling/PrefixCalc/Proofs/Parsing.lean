import PrefixCalc.Proofs.Grammar
import PrefixCalc.Proofs.Lexed

/-!
# What parsing keeps

The parser only ever takes tokens off the front of a buffer. So it keeps every
property that survives the loss of the first token, and where it stops, it stops
for one of few reasons: the tokens are no expression, a word does not fit the kind of
its token, or the nesting budget is spent. `Discipline` says which of these are
excused, and `Discipline.keeps_form` carries both through every form of expression.
-/

namespace PrefixCalc

namespace ParseError

/-- Whether a parse error is a guard against tokens that no text gives. -/
def isGuard : ParseError → Bool
  | .unknownBinaryOp _ | .unknownUnaryOp _ | .unknownSpecial _ | .unknownConstant _
  | .unexpected _ => true
  | _ => false

/-- Whether a parse error is about the grammar alone: neither a guard nor a spent budget. -/
def isPlain : ParseError → Bool
  | .tooDeep => false
  | error => !error.isGuard

/-- A plain error is no guard. -/
theorem isGuard_of_isPlain {error : ParseError} (plain : error.isPlain = true) :
    error.isGuard = false := by
  unfold isPlain at plain
  split at plain
  · cases plain
  · simpa using plain

end ParseError

namespace Parser

/-- A property of buffers that parsing keeps, as far as it stops for `excused` reasons. -/
structure Discipline (keep : Buffer → Prop) (excused : Stop → Prop) : Prop where
  /-- The loss of the first token keeps the property. -/
  tail : ∀ {token rest}, keep (token :: rest) → keep rest
  /-- Plain errors are excused. -/
  plain : ∀ {error}, error.isPlain = true → excused (.refused error)
  /-- Where a word does not fit the kind of its token, everything but a spent budget is excused. -/
  unfit : ∀ {token rest stop}, keep (token :: rest) → ¬ token.kind.Fits token.lexeme →
    stop ≠ .refused .tooDeep → excused stop

namespace Discipline

variable {α : Type} {keep : Buffer → Prop} {excused : Stop → Prop}

/-- Refusing with a plain error keeps the property. -/
theorem keeps_refuse (discipline : Discipline keep excused) {error : ParseError}
    (plain : error.isPlain = true) : Keeps keep excused (refuse error : Parser α) :=
  Keeps.throw (discipline.plain plain)

/-- Taking an identifier keeps the property. -/
theorem keeps_identifier (discipline : Discipline keep excused) {missing : ParseError}
    {invalid : String → ParseError} (plain : missing.isPlain = true)
    (plainWord : ∀ word, (invalid word).isPlain = true) :
    Keeps keep excused (identifier missing invalid) := by
  intro buffer kept
  cases buffer with
  | nil => exact ⟨kept, discipline.plain plain⟩
  | cons token rest =>
    rw [identifier_cons]
    split
    · exact discipline.tail kept
    · exact ⟨discipline.tail kept, discipline.plain (plainWord token.lexeme)⟩

/-- Taking a new name keeps the property. -/
theorem keeps_newName (discipline : Discipline keep excused) (role : NameRole)
    {missing : ParseError} (plain : missing.isPlain = true) :
    Keeps keep excused (newName role missing) := by
  intro buffer kept
  cases buffer with
  | nil => exact ⟨kept, discipline.plain plain⟩
  | cons token rest =>
    rw [newName_cons]
    split
    · exact ⟨discipline.tail kept, discipline.plain rfl⟩
    · split
      · exact discipline.tail kept
      · exact ⟨discipline.tail kept, discipline.plain rfl⟩

/-- Taking a mark keeps the property. -/
theorem keeps_closePart (discipline : Discipline keep excused) (mark : Mark) :
    Keeps keep excused (closePart mark) := by
  intro buffer kept
  cases buffer with
  | nil => exact ⟨kept, discipline.plain rfl⟩
  | cons token rest =>
    rw [closePart_cons]
    split
    · exact discipline.tail kept
    · exact ⟨kept, discipline.plain rfl⟩

/-- Taking the mark that closes the first branch keeps the property. -/
theorem keeps_closeBranch (discipline : Discipline keep excused) :
    Keeps keep excused closeBranch := by
  intro buffer kept
  cases buffer with
  | nil => exact ⟨kept, discipline.plain rfl⟩
  | cons token rest =>
    rw [closeBranch_cons]
    split
    · exact discipline.tail kept
    · split
      · exact discipline.tail kept
      · exact ⟨kept, discipline.plain rfl⟩

/-- Taking items keeps the property if taking one does. -/
theorem keeps_itemsUntil (discipline : Discipline keep excused) {item : Parser α}
    (keeps : Keeps keep excused item) (close : Kind) {unclosed : ParseError}
    (plain : unclosed.isPlain = true) : Keeps keep excused (itemsUntil item close unclosed) := by
  have rounds : ∀ count, Keeps keep excused (itemsUntil.rounds item close unclosed count) := by
    intro count
    induction count with
    | zero => exact discipline.keeps_refuse plain
    | succ count ih =>
      intro buffer kept
      cases buffer with
      | nil => exact ⟨kept, discipline.plain plain⟩
      | cons token rest =>
        rw [rounds_cons]
        split
        · exact discipline.tail kept
        · exact Keeps.bind keeps (fun first => Keeps.bind ih fun others => Keeps.pure _)
            (token :: rest) kept
  exact fun buffer => rounds (buffer.length + 1) buffer

section

variable {inner : Parser Expr}

/-- Taking a function definition keeps the property if taking its body does. -/
theorem keeps_function (discipline : Discipline keep excused) (keeps : Keeps keep excused inner) :
    Keeps keep excused (function inner) := by
  refine Keeps.bind (discipline.keeps_newName .function rfl) fun name => ?_
  refine Keeps.bind (discipline.keeps_itemsUntil (discipline.keeps_newName .parameter rfl) _ rfl)
    fun parameters => ?_
  exact Keeps.bind (discipline.keeps_itemsUntil keeps _ rfl) fun body => Keeps.pure _

/-- Taking a call keeps the property if taking its arguments does. -/
theorem keeps_call (discipline : Discipline keep excused) (keeps : Keeps keep excused inner) :
    Keeps keep excused (call inner) := by
  refine Keeps.bind (discipline.keeps_identifier rfl fun _ => rfl) fun name => ?_
  exact Keeps.bind (discipline.keeps_itemsUntil keeps _ rfl) fun arguments => Keeps.pure _

/-- Taking a condition keeps the property if taking its parts does. -/
theorem keeps_condition (discipline : Discipline keep excused) (keeps : Keeps keep excused inner) :
    Keeps keep excused (condition inner) := by
  refine Keeps.bind keeps fun test => ?_
  refine Keeps.bind (discipline.keeps_closePart .thenMark) fun _ => ?_
  refine Keeps.bind keeps fun whenTrue => ?_
  refine Keeps.bind discipline.keeps_closeBranch fun closed => ?_
  cases closed with
  | true => exact Keeps.pure _
  | false =>
    refine Keeps.bind keeps fun whenFalse => ?_
    exact Keeps.bind (discipline.keeps_closePart .fiMark) fun _ => Keeps.pure _

/-- Taking what a token opens keeps the property if taking the expressions inside does. The token
itself is taken already, so what is excused if its word does not fit is said of it alone. -/
theorem keeps_form (discipline : Discipline keep excused) (keeps : Keeps keep excused inner)
    {token : Token} (unfit : ∀ {stop}, ¬ token.kind.Fits token.lexeme →
      stop ≠ .refused .tooDeep → excused stop) : Keeps keep excused (form inner token) := by
  unfold form
  cases opens : token.kind with
  | literal =>
    rw [opens] at unfit
    unfold literal
    cases found : literalValue? token.lexeme with
    | some value => exact Keeps.pure _
    | none => exact Keeps.throw (unfit (by simp [Kind.Fits, found]) (by simp))
  | constant =>
    rw [opens] at unfit
    unfold constant
    cases found : Constant.ofSymbol? token.lexeme with
    | some value => exact Keeps.pure _
    | none => exact Keeps.throw (unfit (by simp [Kind.Fits, found]) (by simp))
  | identifier => exact Keeps.pure _
  | define =>
    refine Keeps.bind (discipline.keeps_identifier rfl fun _ => rfl) fun name => ?_
    exact Keeps.bind keeps fun value => Keeps.pure _
  | assign =>
    refine Keeps.bind (discipline.keeps_identifier rfl fun _ => rfl) fun name => ?_
    exact Keeps.bind keeps fun value => Keeps.pure _
  | binaryOp =>
    rw [opens] at unfit
    cases found : BinaryOp.ofSymbol? token.lexeme with
    | some operator =>
      refine Keeps.bind keeps fun left => ?_
      exact Keeps.bind keeps fun right => Keeps.pure _
    | none => exact Keeps.throw (unfit (by simp [Kind.Fits, found]) (by simp))
  | unaryOp =>
    rw [opens] at unfit
    cases found : UnaryOp.ofSymbol? token.lexeme with
    | some operator => exact Keeps.bind keeps fun operand => Keeps.pure _
    | none => exact Keeps.throw (unfit (by simp [Kind.Fits, found]) (by simp))
  | special =>
    rw [opens] at unfit
    dsimp only
    split
    · exact Keeps.bind keeps fun value => Keeps.pure _
    · rename_i other
      exact Keeps.throw (unfit other (by simp))
  | function => exact discipline.keeps_function keeps
  | call => exact discipline.keeps_call keeps
  | ifMark => exact discipline.keeps_condition keeps
  | foreign name =>
    rw [opens] at unfit
    exact Keeps.throw (unfit id (by simp))
  | _ => exact discipline.keeps_refuse rfl

end

/-- Taking an expression keeps the property, whatever its budget, if a spent budget is excused. -/
theorem keeps_expr (discipline : Discipline keep excused) (spent : excused (.refused .tooDeep))
    (budget : Nat) : Keeps keep excused (expr budget) := by
  induction budget with
  | zero => exact Keeps.throw spent
  | succ budget ih =>
    intro buffer kept
    cases buffer with
    | nil => exact ⟨kept, discipline.plain rfl⟩
    | cons token rest =>
      rw [expr_cons]
      exact discipline.keeps_form ih (discipline.unfit kept) rest (discipline.tail kept)

end Discipline

end Parser

end PrefixCalc
