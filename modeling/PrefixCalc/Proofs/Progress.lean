import PrefixCalc.Proofs.Acceptance
import PrefixCalc.Proofs.Parsing

/-!
# Parsing comes to an end

Whatever the tokens, an expression that is read takes the first of them and leaves
a suffix of the others (`progresses_expr`). So the loops that read items up to a
closing token end without a limit on their rounds: `Loops` is such a loop, and
`itemsUntil` gives what it gives (`Progresses.loopEnds`). Every nested expression
starts behind a token more, so a budget of more than the tokens is never spent
(`shallow_expr`).
-/

namespace PrefixCalc

namespace Parser

variable {α : Type}

/-! ## Progress -/

/-- Whether a parser that gives a result takes a token and leaves the tokens behind as they stood. -/
def Progresses (action : Parser α) : Prop :=
  ∀ ⦃buffer result rest⦄, action buffer = .ok result rest →
    rest <:+ buffer ∧ rest.length < buffer.length

/-- What stands behind a first token and others is a shorter suffix. -/
theorem suffix_and_length_lt (token : Token) (tail rest : Buffer) :
    rest <:+ token :: tail ++ rest ∧ rest.length < (token :: tail ++ rest).length := by
  refine ⟨List.suffix_append _ rest, ?_⟩
  rw [List.length_append, List.length_cons]
  omega

/-- Taking a new name is progress. -/
theorem progresses_newName (role : NameRole) (missing : ParseError) :
    Progresses (newName role missing) := by
  intro buffer name rest read
  obtain ⟨token, rfl, -, -⟩ := of_newName_eq_ok read
  exact suffix_and_length_lt token [] rest

/-- Taking an expression is progress, whatever the budget: a sentence has a first token. -/
theorem progresses_expr (budget : Nat) : Progresses (expr budget) := by
  intro buffer code rest read
  obtain ⟨words, rfl, derives⟩ := derives_of_expr_eq_ok budget read
  obtain ⟨token, tail, rfl, -⟩ := derives.exists_head
  exact suffix_and_length_lt token tail rest

/-! ## Loops without a limit -/

/-- An outcome with one item more in front of those that it gives. -/
def prepend (first : α) :
    EStateM.Result Stop Buffer (List α) → EStateM.Result Stop Buffer (List α)
  | .ok others rest => .ok (first :: others) rest
  | .error stop rest => .error stop rest

/-- An item in front of those that a parser gives stands in front of them in its outcome. -/
theorem bind_cons_apply (first : α) (action : Parser (List α)) (buffer : Buffer) :
    (do return first :: (← action)) buffer = prepend first (action buffer) := by
  cases outcome : action buffer with
  | ok others rest =>
    rw [bind_of_ok outcome]
    rfl
  | error stop rest =>
    rw [bind_of_error outcome]
    rfl

/-- The loop that reads items up to a token of kind `close`, with no limit on its rounds: how many
items it reads from a buffer, and what comes of it. -/
inductive Loops (item : Parser α) (close : Kind) (unclosed : ParseError) :
    Nat → Buffer → EStateM.Result Stop Buffer (List α) → Prop
  /-- The tokens end. -/
  | ended : Loops item close unclosed 0 [] (.error (.refused unclosed) [])
  /-- The closing token is taken. -/
  | closed {token : Token} {rest : Buffer} : token.kind = close →
    Loops item close unclosed 0 (token :: rest) (.ok [] rest)
  /-- No item can be read. -/
  | stopped {token : Token} {rest left : Buffer} {stop : Stop} : token.kind ≠ close →
    item (token :: rest) = .error stop left →
    Loops item close unclosed 0 (token :: rest) (.error stop left)
  /-- An item is read, and the loop goes on with what is left. -/
  | round {token : Token} {rest left : Buffer} {first : α} {count : Nat}
    {outcome : EStateM.Result Stop Buffer (List α)} : token.kind ≠ close →
    item (token :: rest) = .ok first left → Loops item close unclosed count left outcome →
    Loops item close unclosed (count + 1) (token :: rest) (prepend first outcome)

section

variable {item : Parser α} {close : Kind} {unclosed : ParseError} {buffer : Buffer}

/-- A loop has one course. -/
theorem Loops.unique {count other : Nat} {outcome result : EStateM.Result Stop Buffer (List α)}
    (loops : Loops item close unclosed count buffer outcome)
    (otherwise : Loops item close unclosed other buffer result) :
    count = other ∧ outcome = result := by
  induction loops generalizing other result with
  | ended =>
    cases otherwise
    exact ⟨rfl, rfl⟩
  | closed closes =>
    cases otherwise with
    | closed => exact ⟨rfl, rfl⟩
    | stopped goesOn => exact absurd closes goesOn
    | round goesOn => exact absurd closes goesOn
  | stopped goesOn failed =>
    cases otherwise with
    | closed closes => exact absurd closes goesOn
    | stopped _ failedToo =>
      cases failed.symm.trans failedToo
      exact ⟨rfl, rfl⟩
    | round _ read => cases failed.symm.trans read
  | round goesOn read _ ih =>
    cases otherwise with
    | closed closes => exact absurd closes goesOn
    | stopped _ failed => cases read.symm.trans failed
    | round _ readToo later =>
      cases read.symm.trans readToo
      obtain ⟨rfl, rfl⟩ := ih later
      exact ⟨rfl, rfl⟩

/-- With more rounds than tokens, items that progress are read as the loop without a limit reads
them, and no more of them than there are tokens. -/
theorem Progresses.exists_loops (progresses : Progresses item) {count : Nat}
    (enough : buffer.length < count) :
    ∃ made ≤ buffer.length, Loops item close unclosed made buffer
      (itemsUntil.rounds item close unclosed count buffer) := by
  -- Each item takes a token, so the rounds that are left stay more than the tokens that are left.
  induction count generalizing buffer with
  | zero => omega
  | succ count ih =>
    cases buffer with
    | nil => exact ⟨0, Nat.le_refl 0, .ended⟩
    | cons token rest =>
      rw [List.length_cons] at enough ⊢
      rw [rounds_cons]
      split
      · rename_i closes
        exact ⟨0, Nat.zero_le _, .closed closes⟩
      · rename_i goesOn
        cases read : item (token :: rest) with
        | error stop left =>
          rw [bind_of_error read]
          exact ⟨0, Nat.zero_le _, .stopped goesOn read⟩
        | ok first left =>
          have shorter : left.length < rest.length + 1 := (progresses read).2
          obtain ⟨made, few, loops⟩ := @ih left (by omega)
          rw [bind_of_ok read, bind_cons_apply]
          exact ⟨made + 1, by omega, .round goesOn read loops⟩

end

/-- Whether the loop without a limit ends on a buffer: it has one course, of no more rounds than
there are tokens, and `itemsUntil` gives what comes of it. -/
def LoopEnds (item : Parser α) (close : Kind) (unclosed : ParseError) (buffer : Buffer) : Prop :=
  ∃ made ≤ buffer.length, ∀ count outcome, Loops item close unclosed count buffer outcome ↔
    count = made ∧ outcome = itemsUntil item close unclosed buffer

/-- A loop over items that progress ends. -/
theorem Progresses.loopEnds {item : Parser α} (progresses : Progresses item) (close : Kind)
    (unclosed : ParseError) (buffer : Buffer) : LoopEnds item close unclosed buffer := by
  obtain ⟨made, few, loops⟩ :=
    @Progresses.exists_loops α item close unclosed buffer progresses _ (Nat.lt_succ_self _)
  refine ⟨made, few, fun count outcome => ⟨fun otherwise => otherwise.unique loops, ?_⟩⟩
  rintro ⟨rfl, rfl⟩
  exact loops

/-! ## Depth -/

/-- Whether a parser spends no nesting budget on fewer tokens than a limit, and adds none to them. -/
def Shallow (limit : Nat) (action : Parser α) : Prop :=
  Keeps (fun buffer => buffer.length < limit) (· ≠ .refused .tooDeep) action

/-- Tokens that are fewer than a limit stay so, and all may go wrong but the budget. -/
theorem length_discipline (limit : Nat) :
    Discipline (fun buffer => buffer.length < limit) (· ≠ .refused .tooDeep) where
  tail {token rest} short := by
    rw [List.length_cons] at short
    omega
  plain {error} plain spent := by
    cases spent
    cases plain
  unfit _ _ unspent := unspent

/-- A budget is enough for all expressions of fewer tokens. -/
theorem shallow_expr (budget : Nat) : Shallow budget (expr budget) := by
  induction budget with
  | zero => exact fun buffer short => absurd short (Nat.not_lt_zero _)
  | succ budget ih =>
    intro buffer short
    cases buffer with
    | nil => exact ⟨short, by simp⟩
    | cons token rest =>
      -- The expressions inside start behind the token, so one unit less is enough for them.
      have inside : Shallow budget (form (expr budget) token) :=
        (length_discipline budget).keeps_form ih fun _ unspent => unspent
      rw [List.length_cons] at short
      rw [expr_cons]
      refine (inside rest (by omega)).mono (fun _ left fewer => ?_) fun _ left stops => ?_
      · omega
      · exact ⟨by omega, stops.2⟩

/-! ## The whole -/

/-- Parsing comes to an end on all tokens, whether a text gives them or not: what is read leaves
fewer tokens, so its loops end without a limit on their rounds, and a budget that is linear in the
tokens is never spent. -/
theorem ends_within_tokens :
    (∀ (budget : Nat) (buffer rest : Buffer) (code : Expr), expr budget buffer = .ok code rest →
      rest <:+ buffer ∧ rest.length < buffer.length) ∧
    (∀ buffer, LoopEnds (newName .parameter .openParameters) .beginMark .openParameters buffer) ∧
    (∀ budget buffer, LoopEnds (expr budget) .endMark .openBody buffer) ∧
    (∀ budget buffer, LoopEnds (expr budget) .callEndMark .openArguments buffer) ∧
    ∃ a b, ∀ (buffer : Buffer) (budget : Nat), a * buffer.length + b ≤ budget →
      ∀ rest, expr budget buffer ≠ .error (.refused .tooDeep) rest := by
  refine ⟨fun budget buffer rest code read => progresses_expr budget read,
    (progresses_newName .parameter .openParameters).loopEnds _ _,
    fun budget => (progresses_expr budget).loopEnds _ _,
    fun budget => (progresses_expr budget).loopEnds _ _, 1, 1, ?_⟩
  intro buffer budget enough rest spent
  have ends := shallow_expr budget buffer (by omega)
  rw [spent] at ends
  exact ends.2 rfl

/-- Of an operator, its operand and a token of a foreign kind, the first two are read and the third
is left; as arguments of a call they end the loop at the third; and some budget is not spent on
them. -/
theorem ends_within_tokens_foreign :
    let stray : Token := ⟨.foreign "COMMA", ",", 7⟩
    let buffer : Buffer := [⟨.unaryOp, "neg", 1⟩, ⟨.identifier, "x", 5⟩, stray]
    expr 2 buffer = .ok (.unary .negate (.get "x")) [stray] ∧
    ([stray] <:+ buffer ∧ [stray].length < buffer.length) ∧
    (∃ made ≤ buffer.length, Loops (expr 2) .callEndMark .openArguments made buffer
      (.error (.refused (.unexpected ",")) [])) ∧
    ∃ budget, ∀ rest, expr budget buffer ≠ .error (.refused .tooDeep) rest := by
  intro stray buffer
  obtain ⟨progress, -, -, arguments, a, b, shallow⟩ := ends_within_tokens
  have read : expr 2 buffer = .ok (.unary .negate (.get "x")) [stray] := rfl
  have stopped : itemsUntil (expr 2) .callEndMark .openArguments buffer =
      .error (.refused (.unexpected ",")) [] := rfl
  obtain ⟨made, few, course⟩ := arguments 2 buffer
  have loops := (course made _).mpr ⟨rfl, stopped.symm⟩
  exact ⟨read, progress 2 buffer [stray] _ read, ⟨made, few, loops⟩, a * buffer.length + b,
    shallow buffer _ (Nat.le_refl _)⟩

end Parser

end PrefixCalc
