import PrefixCalc.Proofs.Frame
import PrefixCalc.Proofs.Taking

/-!
# The last value

A session keeps the value of the last expression in the variable `last`, which
programs may read, change and shadow like any other. Whatever a session is given
comes down to moves: a text is taken or a command is carried out. What one move does
to `last` follows from what it does to the environment, and what a whole run does
by induction over its moves: `last` is always the first variable, and it holds the
value of the latest expression since the last reset unless an expression that fails
has changed it (`last_keeps_latest_value`).
-/

namespace PrefixCalc

/-- Whether an expression changes a variable of its own frame. Assignments in the bodies of
functions that it defines do not count. -/
def Expr.Assigns (code : Expr) (name : String) : Prop :=
  ∃ value, code.HasNode (.assign name value)

namespace Session

variable {session : Session}

/-! ## The last variable in one step -/

/-- Whether `last` is the first variable. -/
def Led (environment : Environment) : Prop :=
  environment.locals.names.head? = some lastName

section

variable {before after : Environment}

/-- The environment of a new session has `last` as its first variable. -/
theorem led_fresh : Led freshEnvironment := rfl

/-- The first variable is defined. -/
theorem Led.contains (led : Led before) : before.locals.contains lastName = true := by
  rw [Table.contains_iff]
  exact List.mem_of_mem_head? led

/-- An expression that accounts for the differences leaves `last` in front. -/
theorem Led.of_accountsFor (led : Led before) {code : Expr}
    (accounts : code.AccountsFor before.locals after.locals) : Led after := by
  obtain ⟨names, grown, -⟩ := accounts.added
  unfold Led at led ⊢
  rw [grown, List.head?_append, led]
  rfl

/-- Another last value leaves `last` in front. -/
theorem Led.withLast (led : Led before) (value : Value) : Led (before.withLast value) := by
  have known : lastName ∈ before.locals.names := List.mem_of_mem_head? led
  unfold Led Environment.withLast
  rw [Table.names_insert, if_pos known]
  exact led

/-- An expression without assignments to `last` leaves it as it was. -/
theorem Led.find?_of_accountsFor (led : Led before) {code : Expr}
    (accounts : code.AccountsFor before.locals after.locals) (spares : ¬ code.Assigns lastName) :
    after.locals.find? lastName = before.locals.find? lastName := by
  by_contra differs
  have known : lastName ∈ before.locals.names := List.mem_of_mem_head? led
  exact spares (accounts.changed lastName known differs)

end

/-- What the outcome of a text says about the environment: if nothing is evaluated it is the same,
if an evaluation fails `last` is the same unless the expression assigns it, and if there is a value
it is the value of `last`. -/
def Outcome.Concerns (before after : Environment) : Outcome → Prop
  | .escaped _ | .refused _ | .heldBack => after = before
  | .failed code _ => ¬ code.Assigns lastName →
    after.locals.find? lastName = before.locals.find? lastName
  | .evaluated _ value => after.locals.find? lastName = some value

/-- Taking a text leaves `last` in front and does to it what the outcome says. -/
theorem Leaves.led_and_concerns {limit : Nat} {before after : Environment} {outcome : Outcome}
    (leaves : Leaves limit before outcome after) (led : Led before) :
    Led after ∧ outcome.Concerns before after := by
  have accounts : ∀ code : Expr, code.AccountsFor before.locals
      (stateAfter (Eval.expr limit code) { environment := before }).environment.locals :=
    fun code => Eval.accountsFor_expr limit code { environment := before }
  cases leaves with
  | escaped | refused | heldBack => exact ⟨led, rfl⟩
  | @failed code fault run ended =>
    have accounted := accounts code
    rw [stateAfter_of_error ended] at accounted
    exact ⟨led.of_accountsFor accounted, led.find?_of_accountsFor accounted⟩
  | @evaluated code value run ended =>
    have accounted := accounts code
    rw [stateAfter_of_ok ended] at accounted
    refine ⟨(led.of_accountsFor accounted).withLast value, ?_⟩
    show (Table.insert run.environment.locals lastName value).find? lastName = some value
    rw [Table.find?_insert, if_pos rfl]

/-! ## Moves -/

/-- What everything that a session is given comes down to. -/
inductive Move where
  /-- Take a text. -/
  | take (text : String)
  /-- Carry out a command. -/
  | perform (command : Command)

/-- The session after a move, whether it failed or not. -/
def Move.act : Move → Session → Session
  | .take text => stateAfter (submitExpr text)
  | .perform command => stateAfter (Session.perform command)

/-- The session after some moves, one after another. -/
def through (session : Session) (moves : List Move) : Session :=
  moves.foldl (fun session move => move.act session) session

/-- The value of the expression that a text is. -/
def Outcome.value? : Outcome → Option Value
  | .evaluated _ value => some value
  | .escaped _ | .refused _ | .heldBack | .failed _ _ => none

/-- The values since the last reset, with those of one more move. -/
def Move.valuesAfter (session : Session) (soFar : List Value) : Move → List Value
  | .take text => soFar ++ (session.outcome text).value?.toList
  | .perform .reset => []
  | .perform _ => soFar

/-- The values of all expressions since the last reset, in order, with those before the moves. -/
def valuesSinceReset (session : Session) (soFar : List Value) : List Move → List Value
  | [] => soFar
  | move :: rest => (move.act session).valuesSinceReset (move.valuesAfter session soFar) rest

/-- Only forgetting changes the environment. -/
theorem environment_perform (command : Command) (session : Session) :
    (stateAfter (perform command) session).environment =
      if command = .reset then freshEnvironment else session.environment := by
  cases command with
  | environment | reset | batch => rfl
  | last =>
    unfold stateAfter
    simp only [perform]
    rw [get_bind]
    cases session.environment.locals.get lastName <;> rfl

/-- Whether `last` holds the latest of some values, and zero if there are none. -/
def Holds (session : Session) (values : List Value) : Prop :=
  session.environment.locals.find? lastName = some (values.getLast?.getD (.number 0))

/-- A move leaves `last` in front. -/
theorem Move.led_act (move : Move) (led : Led session.environment) :
    Led (move.act session).environment := by
  cases move with
  | take text => exact ((leaves_submitExpr led.contains text).led_and_concerns led).1
  | perform command =>
    unfold act
    rw [environment_perform]
    split
    · exact led_fresh
    · exact led

/-- Whether a move takes no text whose evaluation fails and assigns `last`. -/
def Move.Spares (session : Session) (move : Move) : Prop :=
  ∀ text code fault, move = .take text → session.outcome text = .failed code fault →
    ¬ code.Assigns lastName

/-- After a move `last` holds the latest value if it did so before. -/
theorem Move.holds_act {move : Move} {values : List Value} (led : Led session.environment)
    (holds : session.Holds values) (spares : move.Spares session) :
    (move.act session).Holds (move.valuesAfter session values) := by
  cases move with
  | take text =>
    have concerns := ((leaves_submitExpr led.contains text).led_and_concerns led).2
    show (stateAfter (submitExpr text) session).environment.locals.find? lastName =
      some ((values ++ (session.outcome text).value?.toList).getLast?.getD (.number 0))
    cases came : session.outcome text with
    | escaped escape | refused error | heldBack =>
      rw [came] at concerns
      simp only [Outcome.value?, Option.toList_none, List.append_nil]
      rw [concerns]
      exact holds
    | failed code fault =>
      rw [came] at concerns
      simp only [Outcome.value?, Option.toList_none, List.append_nil]
      rw [concerns (spares text code fault rfl came)]
      exact holds
    | evaluated code value =>
      rw [came] at concerns
      simp only [Outcome.value?, Option.toList_some, List.getLast?_concat]
      exact concerns
  | perform command =>
    unfold Holds act
    rw [environment_perform]
    cases command with
    | reset => rfl
    | environment | batch | last => exact holds

/-! ## Runs -/

/-- Whatever moves are made, `last` stays in front. -/
theorem led_through (moves : List Move) (led : Led session.environment) :
    Led (session.through moves).environment := by
  induction moves generalizing session with
  | nil => exact led
  | cons move rest ih => exact ih (move.led_act led)

/-- Whether no text that is taken in some moves fails and assigns `last`. -/
def Spares (session : Session) (moves : List Move) : Prop :=
  ∀ before text later code fault, moves = before ++ .take text :: later →
    (session.through before).outcome text = .failed code fault → ¬ code.Assigns lastName

/-- Whatever moves are made, `last` holds the latest value, as long as no text that fails assigns
it. -/
theorem holds_through {moves : List Move} {values : List Value} (led : Led session.environment)
    (holds : session.Holds values) (spares : session.Spares moves) :
    (session.through moves).Holds (session.valuesSinceReset values moves) := by
  induction moves generalizing session values with
  | nil => exact holds
  | cons move rest ih =>
    have first : move.Spares session := by
      rintro text code fault rfl failed
      exact spares [] text rest code fault rfl failed
    have later : (move.act session).Spares rest := by
      intro before text later code fault split failed
      exact spares (move :: before) text later code fault (by rw [split]; rfl) failed
    exact ih (move.led_act led) (move.holds_act led holds first) later

/-! ## What a session is given -/

/-- What a session may be given: a call, or a text to take as it is. -/
inductive Input where
  /-- Take a text, which may end in blanks and have semicolons. -/
  | text (given : String)
  /-- Make a call. -/
  | call (request : Call)

/-- Carry out what a session is given. -/
def Input.answer : Input → Step (Option Bool)
  | .text given => do return some (← submitExpr given)
  | .call request => request.answer

/-- The session after it was given some inputs, one after another, whatever came of each. -/
def given (session : Session) (inputs : List Input) : Session :=
  inputs.foldl (fun session input => stateAfter input.answer session) session

/-- The moves of items that are taken in order: those of each item up to the first that does not
succeed. -/
def movesOfAll {α : Type} (step : α → Step Bool) (moves : Session → α → List Move)
    (session : Session) : List α → List Move
  | [] => []
  | first :: rest =>
    moves session first ++
      match step first session with
      | .ok true after => movesOfAll step moves after rest
      | _ => []

/-- The moves of a line: its command, or its pieces up to the first that does not succeed. -/
def movesOfLine (session : Session) (line : String) : List Move :=
  match Command.ofLine? (Text.trim line) with
  | some command => [.perform command]
  | none => movesOfAll submitExpr (fun _ text => [.take text]) session (Text.pieces line)

/-- The moves of a text: those of its lines up to the first that does not succeed. -/
def movesOfText (session : Session) (text : String) : List Move :=
  movesOfAll submitLine movesOfLine session
    ((Text.lines text).filter fun line => !(Text.trim line).isEmpty)

/-- The moves that an input comes down to. -/
def Input.moves (session : Session) : Input → List Move
  | .text given => [.take given]
  | .call (.line line) => session.movesOfLine line
  | .call (.lines given) => session.movesOfText given
  | .call (.command line) => (Command.ofLine? (Text.trim line)).toList.map .perform
  | .call .reset => [.perform .reset]

/-- The moves that inputs come down to, one after another. -/
def moves (session : Session) : List Input → List Move
  | [] => []
  | input :: rest => input.moves session ++ (stateAfter input.answer session).moves rest

/-- Moves and then others are all of them. -/
theorem through_append (session : Session) (moves others : List Move) :
    session.through (moves ++ others) = (session.through moves).through others :=
  List.foldl_append ..

/-- Items that are taken in order come down to their moves if each item does. -/
theorem stateAfter_allOf {α : Type} {step : α → Step Bool} {moves : Session → α → List Move}
    (same : ∀ session item, stateAfter (step item) session = session.through (moves session item))
    (session : Session) (items : List α) :
    stateAfter (allOf step items) session =
      session.through (movesOfAll step moves session items) := by
  induction items generalizing session with
  | nil => rfl
  | cons first rest ih =>
    rw [movesOfAll, through_append, ← same, allOf]
    cases ended : step first session with
    | error escape after => rw [stateAfter_bind_of_error ended, stateAfter_of_error ended]; rfl
    | ok success after =>
      rw [stateAfter_bind_of_ok ended, stateAfter_of_ok ended]
      cases success with
      | true => exact ih after
      | false => rfl

/-- Trying a line as a command comes down to that command. -/
theorem stateAfter_obey (session : Session) (line : String) :
    stateAfter (obey line) session =
      session.through ((Command.ofLine? (Text.trim line)).toList.map .perform) := by
  unfold obey
  cases Command.ofLine? (Text.trim line) with
  | none => rfl
  | some command => exact stateAfter_bind_pure (perform command) (fun _ => true) session

/-- A line comes down to its moves. -/
theorem stateAfter_submitLine (session : Session) (line : String) :
    stateAfter (submitLine line) session = session.through (session.movesOfLine line) := by
  unfold movesOfLine
  cases given : Command.ofLine? (Text.trim line) with
  | none =>
    rw [submitLine_of_ofLine?_eq_none given]
    exact stateAfter_allOf (fun _ _ => rfl) session (Text.pieces line)
  | some command =>
    rw [submitLine_of_ofLine?_eq_some given]
    exact stateAfter_bind_pure (perform command) (fun _ => true) session

/-- An input comes down to its moves. -/
theorem Input.stateAfter_answer (input : Input) (session : Session) :
    stateAfter input.answer session = session.through (input.moves session) := by
  cases input with
  | text given => exact stateAfter_bind_pure (submitExpr given) some session
  | call request =>
    cases request with
    | line line =>
      rw [moves, ← stateAfter_submitLine]
      exact stateAfter_bind_pure (submitLine line) some session
    | lines given =>
      rw [moves, movesOfText, ← stateAfter_allOf stateAfter_submitLine]
      exact stateAfter_bind_pure (submitText given) some session
    | command line =>
      rw [moves, ← stateAfter_obey]
      exact stateAfter_bind_pure (obey line) some session
    | reset => rfl

/-- Inputs come down to their moves. -/
theorem given_eq_through (session : Session) (inputs : List Input) :
    session.given inputs = session.through (session.moves inputs) := by
  induction inputs generalizing session with
  | nil => rfl
  | cons input rest ih =>
    rw [moves, through_append, ← input.stateAfter_answer]
    exact ih (stateAfter input.answer session)

/-- Whatever a session is given, `last` is always the first variable, and it holds the value of the
latest expression since the last reset, as long as no expression fails that assigns `last`. -/
theorem last_keeps_latest_value (batch : Bool) (limits : Limits) (inputs : List Input) :
    let session : Session := { start batch with limits }
    session.given inputs = session.through (session.moves inputs) ∧
    (∀ before, before <+: session.moves inputs →
      (session.through before).environment.locals.contains lastName = true ∧
      (session.through before).environment.locals.names.head? = some lastName) ∧
    (∀ before text later, session.moves inputs = before ++ .take text :: later →
      ((session.through before).outcome text).Concerns (session.through before).environment
        (session.through (before ++ [.take text])).environment) ∧
    (session.Spares (session.moves inputs) → ∀ before, before <+: session.moves inputs →
      (session.through before).environment.locals.find? lastName =
        some ((session.valuesSinceReset [] before).getLast?.getD (.number 0))) := by
  intro session
  have led : ∀ moves, Led (session.through moves).environment :=
    fun moves => led_through moves led_fresh
  have first : ∀ before, before <+: session.moves inputs →
      (session.through before).environment.locals.contains lastName = true ∧
      (session.through before).environment.locals.names.head? = some lastName :=
    fun before _ => ⟨(led before).contains, led before⟩
  refine ⟨given_eq_through session inputs, first, ?_, ?_⟩
  · intro before text later _
    rw [through_append]
    exact ((leaves_submitExpr (led before).contains text).led_and_concerns (led before)).2
  · rintro spares before ⟨later, split⟩
    have earlier : session.Spares before := by
      intro first text rest code fault same failed
      exact spares first text (rest ++ later) code fault (by rw [← split, same]; simp) failed
    exact holds_through led_fresh rfl earlier

-- A function with a parameter `last` assigns its own one; its result is the last value.
example :
    let line := "def f last begin = last 3 end; call f 2 cend; + last 1"
    let session := (start true).given [.call (.line line)]
    (session.environment.locals.find? lastName).map Value.text = some "4" := by
  decide +kernel

end Session

end PrefixCalc
