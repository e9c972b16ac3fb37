import PrefixCalc.Proofs.Answers
import PrefixCalc.Proofs.Events

/-!
# Taking a text

A session that takes a text reads it and, if it is an expression, evaluates it.
`Session.outcome` says what comes of the text without the events, which decide
nothing, and `Leaves` what becomes of the environment (`leaves_submitExpr`).
-/

namespace PrefixCalc

/-- The environment with another last value. -/
def Environment.withLast (environment : Environment) (value : Value) : Environment :=
  { environment with locals := environment.locals.insert Session.lastName value }

namespace Session

/-- What comes of a text that a session takes. -/
inductive Outcome where
  /-- Reading met something that is no matter of grammar. -/
  | escaped (escape : Escape)
  /-- The text is no expression. -/
  | refused (error : ParseError)
  /-- The text is held back. -/
  | heldBack
  /-- The text is an expression whose evaluation fails. -/
  | failed (code : Expr) (fault : Fault)
  /-- The text is an expression that has a value. -/
  | evaluated (code : Expr) (value : Value)

/-- What the reader of a session makes of a text. -/
def reading (session : Session) (text : String) : Reading :=
  Reading.ofText session.limits.reading session.pending text

/-- What comes of a text that a session takes: it is read, and an expression is evaluated. -/
def outcome (session : Session) (text : String) : Outcome :=
  match (session.reading text).outcome with
  | .error (.escaped escape) => .escaped escape
  | .error (.refused error) => .refused error
  | .ok none => .heldBack
  | .ok (some code) =>
    match Eval.expr session.limits.evaluating code { environment := session.environment } with
    | .ok value _ => .evaluated code value
    | .error fault _ => .failed code fault

/-- What taking a text makes of an environment, by what comes of the text. -/
inductive Leaves (limit : Nat) (before : Environment) : Outcome → Environment → Prop
  | escaped (escape : Escape) : Leaves limit before (.escaped escape) before
  | refused (error : ParseError) : Leaves limit before (.refused error) before
  | heldBack : Leaves limit before .heldBack before
  | failed {code : Expr} {fault : Fault} {run : Run} :
    Eval.expr limit code { environment := before } = .error fault run →
    Leaves limit before (.failed code fault) run.environment
  | evaluated {code : Expr} {value : Value} {run : Run} :
    Eval.expr limit code { environment := before } = .ok value run →
    Leaves limit before (.evaluated code value) (run.environment.withLast value)

/-- The session after a text is read. -/
def afterReading (session : Session) (text : String) : Session :=
  { session with
    pending := (session.reading text).pending
    events := session.events ++ (session.reading text).traces.map Event.trace }

variable {session : Session} {text : String}

/-- Reading hands on what is read or held back. -/
theorem read_of_ok {code? : Option Expr} (given : (session.reading text).outcome = .ok code?) :
    read text session = .ok (.ok code?) (session.afterReading text) := by
  rw [read_apply, ← reading, given]
  rfl

/-- Reading hands on a parse error. -/
theorem read_of_refused {error : ParseError}
    (given : (session.reading text).outcome = .error (.refused error)) :
    read text session = .ok (.error error) (session.afterReading text) := by
  rw [read_apply, ← reading, given]
  rfl

/-- Reading fails with an escape. -/
theorem read_of_escaped {escape : Escape}
    (given : (session.reading text).outcome = .error (.escaped escape)) :
    read text session = .error escape (session.afterReading text) := by
  rw [read_apply, ← reading, given]
  rfl

/-- Evaluating hands on a value. -/
theorem evaluate_of_ok {code : Expr} {value : Value} {run : Run}
    (ran : Eval.expr session.limits.evaluating code ⟨session.environment, session.events⟩ =
      .ok value run) :
    evaluate code session =
      .ok (.ok value) { session with environment := run.environment, events := run.events } := by
  unfold evaluate
  rw [ran]

/-- Evaluating hands on a fault. -/
theorem evaluate_of_error {code : Expr} {fault : Fault} {run : Run}
    (ran : Eval.expr session.limits.evaluating code ⟨session.environment, session.events⟩ =
      .error fault run) :
    evaluate code session =
      .ok (.error fault)
        { session with environment := run.environment, events := run.events } := by
  unfold evaluate
  rw [ran]

/-- Keeping a value changes `last` and nothing else in the environment. -/
theorem environment_keepLast (defined : session.environment.locals.contains lastName = true)
    (value : Value) :
    (stateAfter (keepLast value) session).environment = session.environment.withLast value := by
  have assigned : session.environment.locals.assign lastName value =
      .ok (session.environment.locals.insert lastName value) := if_pos defined
  unfold stateAfter keepLast
  rw [get_bind, assigned]
  rfl

/-- Showing a result and keeping it changes `last` and nothing else in the environment. -/
theorem environment_conclude (defined : session.environment.locals.contains lastName = true)
    (value : Value) :
    (stateAfter (conclude value) session).environment = session.environment.withLast value := by
  obtain ⟨batch, pending, environment, events, limits⟩ := session
  cases batch with
  | true => exact environment_keepLast defined value
  | false =>
    let shown : Session := ⟨false, pending, environment, events ++ [Event.result value], limits⟩
    exact @environment_keepLast shown defined value

/-- A text whose evaluation fails leaves the environment that the evaluation left. -/
theorem environment_of_error {code : Expr} {fault : Fault} {run : Run}
    (given : (session.reading text).outcome = .ok (some code))
    (alone : Eval.expr session.limits.evaluating code { environment := session.environment } =
      .error fault run) :
    (stateAfter (submitExpr text) session).environment = run.environment := by
  obtain ⟨after, ran, same⟩ :=
    Eval.exists_eq_error_from_past (session.afterReading text).events alone
  rw [submitExpr, stateAfter_bind_of_ok (read_of_ok given)]
  dsimp only
  rw [stateAfter_bind_of_ok (evaluate_of_error ran), ← same]
  rfl

/-- A text that has a value leaves the environment that the evaluation left, with the value in
`last`. -/
theorem environment_of_ok (defined : session.environment.locals.contains lastName = true)
    {code : Expr} {value : Value} {run : Run}
    (given : (session.reading text).outcome = .ok (some code))
    (alone : Eval.expr session.limits.evaluating code { environment := session.environment } =
      .ok value run) :
    (stateAfter (submitExpr text) session).environment = run.environment.withLast value := by
  obtain ⟨after, ran, same⟩ :=
    Eval.exists_eq_ok_from_past (session.afterReading text).events alone
  have still : after.environment.locals.contains lastName = true := by
    have kept := Eval.keeps_contains lastName session.limits.evaluating code
      { environment := session.environment } defined
    rw [alone] at kept
    rw [same]
    exact kept
  rw [submitExpr, stateAfter_bind_of_ok (read_of_ok given)]
  dsimp only
  rw [stateAfter_bind_of_ok (evaluate_of_ok ran)]
  dsimp only
  rw [stateAfter_bind_pure (conclude value) fun _ => true, environment_conclude still, ← same]

/-- Taking a text does to the environment what its outcome says. -/
theorem leaves_submitExpr (defined : session.environment.locals.contains lastName = true)
    (text : String) :
    Leaves session.limits.evaluating session.environment (session.outcome text)
      (stateAfter (submitExpr text) session).environment := by
  unfold outcome
  cases given : (session.reading text).outcome with
  | error stop =>
    cases stop with
    | escaped escape =>
      rw [submitExpr, stateAfter_bind_of_error (read_of_escaped given)]
      exact .escaped escape
    | refused error =>
      rw [submitExpr, stateAfter_bind_of_ok (read_of_refused given)]
      exact .refused error
  | ok code? =>
    cases code? with
    | none =>
      rw [submitExpr, stateAfter_bind_of_ok (read_of_ok given)]
      exact .heldBack
    | some code =>
      dsimp only
      cases alone : Eval.expr session.limits.evaluating code
          { environment := session.environment } with
      | error fault run =>
        rw [environment_of_error given alone]
        exact .failed alone
      | ok value run =>
        rw [environment_of_ok defined given alone]
        exact .evaluated alone

end Session

end PrefixCalc
