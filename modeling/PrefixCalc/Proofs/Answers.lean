import PrefixCalc.Proofs.Evaluation
import PrefixCalc.Proofs.Guards
import PrefixCalc.Session

/-!
# Sessions always answer

Whatever lines, texts and commands a session is given, every call on it returns, and
no failure that it reports is a guard (`answers_all_calls`). What carries this from
call to call is `Session.Sound`: the waiting tokens are as they come from texts,
sentences stand for the bodies of all functions, and `last` is defined. Evaluation
keeps the last two, whatever it evaluates.
-/

namespace PrefixCalc

/-- Whether a fault is a guard against trees that no sentence stands for. -/
def Fault.isGuard : Fault → Bool
  | .gap _ => true
  | _ => false

/-- Whether an event reports a guard. -/
def Event.isGuard : Event → Bool
  | .parseFailure error => error.isGuard
  | .evalFailure fault => fault.isGuard
  | _ => false

/-- Whether sentences stand for the bodies of all functions. -/
def Functions.Written (functions : Functions) : Prop :=
  ∀ {name function code}, functions.find? name = some function → code ∈ function.body →
    code.Written

/-- Without functions there is nothing to show. -/
theorem Functions.written_empty : Functions.Written ∅ :=
  fun found => nomatch found

/-- A name stays in a table when names are put in. -/
theorem Table.contains_insert {α : Type} {table : Table α} {name : String}
    (present : table.contains name = true) (other : String) (value : α) :
    (table.insert other value).contains name = true := by
  unfold contains
  rw [find?_insert]
  split
  · rfl
  · exact present

namespace Eval

/-- Evaluating what sentences stand for meets no gap and installs only such functions. -/
theorem written_discipline : Discipline Expr.Written
    (fun run => run.environment.functions.Written) (fun fault => fault.isGuard = false) := by
  refine .ofFunctions Functions.Written Expr.Written.part (fun written found => written found)
    (fun written fine _ => ?_) (fun {fault} gaps => ?_)
  · exact Functions.forall_mem_body_insert written fun _ inside => fine.body inside
  · cases fault with
    | gap gap => exact absurd (gaps gap rfl) (Expr.not_written_gap gap)
    | _ => rfl

/-- A variable of the current frame stays defined, whatever is evaluated. -/
theorem keeps_contains (name : String) (budget : Nat) (code : Expr) :
    Keeps (fun run => run.environment.locals.contains name = true) (fun _ => True)
      (expr budget code) := by
  have discipline : Discipline (fun _ => True) _ _ :=
    .ofLocals (fun locals => locals.contains name = true) (fun _ _ => trivial)
      (fun value present _ _ => Table.contains_insert present _ value)
      (fun value present _ _ => Table.contains_insert present _ value)
  exact discipline.keeps_expr budget trivial

/-- Evaluation itself reports no guards. -/
theorem keeps_unguarded (budget : Nat) (code : Expr) :
    Keeps (fun run => ∀ event ∈ run.events, event.isGuard = false) (fun _ => True)
      (expr budget code) :=
  (Discipline.ofEvents (fun event => event.isGuard = false) (fun _ => rfl)
    fun _ => rfl).keeps_expr budget trivial

end Eval

namespace Session

variable {α β : Type}

/-- What holds of a session between the calls on it. -/
structure Sound (session : Session) : Prop where
  /-- The waiting tokens are as they come from texts. -/
  pending : Buffer.Lexed session.pending
  /-- Sentences stand for the bodies of all functions. -/
  functions : session.environment.functions.Written
  /-- There is a last value. -/
  last : session.environment.locals.contains lastName = true
  /-- No guard was reported. -/
  events : ∀ event ∈ session.events, event.isGuard = false

/-- A new session is sound, whatever its limits are. -/
theorem sound_start (batch : Bool) (limits : Limits) : Sound { start batch with limits } where
  pending := Buffer.lexed_nil
  functions := Functions.written_empty
  last := rfl
  events _ inside := absurd inside (Array.not_mem_empty _)

/-- Whether a step from a sound session always returns, with a result that satisfies `value`, and
leaves the session sound. -/
def Returns (value : α → Prop) (action : Step α) : Prop :=
  ∀ session, Sound session →
    ∃ result after, action session = .ok result after ∧ value result ∧ Sound after

namespace Returns

/-- A result alone is returned. -/
theorem pure {value : α → Prop} {result : α} (fine : value result) :
    Returns value (pure result : Step α) :=
  fun session sound => ⟨result, session, rfl, fine, sound⟩

/-- Two steps return one after the other. -/
theorem bind {value : α → Prop} {last : β → Prop} {action : Step α} {next : α → Step β}
    (first : Returns value action) (second : ∀ result, value result → Returns last (next result)) :
    Returns last (action >>= next) := by
  intro session sound
  obtain ⟨result, after, ended, fine, still⟩ := first session sound
  rw [bind_of_ok ended]
  exact second result fine after still

end Returns

/-- Looking at the session hands it on. -/
theorem get_bind (next : Session → Step α) (session : Session) :
    (get >>= next) session = next session session := rfl

/-- What holds of the events so far and of some more holds of all. -/
theorem forall_mem_events_append {fine : Event → Prop} {events : Array Event} {more : List Event}
    (earlier : ∀ event ∈ events, fine event) (later : ∀ event ∈ more, fine event) :
    ∀ event ∈ events ++ more, fine event := by
  intro event inside
  rw [← Array.mem_toList_iff, Array.toList_appendList, List.mem_append] at inside
  rcases inside with old | new
  · exact earlier event (Array.mem_toList_iff.mp old)
  · exact later event new

/-- Noting events that are no guards returns. -/
theorem returns_emit {events : List Event} (fine : ∀ event ∈ events, event.isGuard = false) :
    Returns (fun _ => True) (emit events) := by
  intro session sound
  exact ⟨(), _, rfl, trivial, sound.pending, sound.functions, sound.last,
    forall_mem_events_append sound.events fine⟩

/-- Noting one event that is no guard returns. -/
theorem returns_emit_singleton {event : Event} (fine : event.isGuard = false) :
    Returns (fun _ => True) (emit [event]) := by
  refine returns_emit fun other inside => ?_
  rw [List.mem_singleton.mp inside]
  exact fine

/-- Traces are no guards. -/
theorem unguarded_traces (traces : List Trace) :
    ∀ event ∈ traces.map Event.trace, event.isGuard = false := by
  intro event inside
  obtain ⟨trace, -, rfl⟩ := List.mem_map.mp inside
  rfl

/-- Forgetting variables and functions returns. -/
theorem returns_reset : Returns (fun _ => True) reset :=
  fun _ sound => ⟨(), _, rfl, trivial, sound.pending, Functions.written_empty, rfl, sound.events⟩

/-- The last value of a sound session can be looked up. -/
theorem Sound.exists_last {session : Session} (sound : Sound session) :
    ∃ value, session.environment.locals.get lastName = .ok value := by
  obtain ⟨value, found⟩ := Option.isSome_iff_exists.mp sound.last
  exact ⟨value, by rw [Variables.get, found]⟩

/-- Commands return. -/
theorem returns_perform (command : Command) : Returns (fun _ => True) (perform command) := by
  cases command with
  | environment => exact fun session sound => returns_emit_singleton rfl session sound
  | reset => exact returns_reset
  | batch =>
    intro session sound
    exact returns_emit_singleton rfl { session with batch := !session.batch }
      ⟨sound.pending, sound.functions, sound.last, sound.events⟩
  | last =>
    intro session sound
    obtain ⟨value, found⟩ := sound.exists_last
    simp only [perform]
    rw [get_bind, found]
    exact returns_emit_singleton rfl session sound

/-- Trying a line as a command returns. -/
theorem returns_obey (line : String) : Returns (fun _ => True) (obey line) := by
  unfold obey
  split
  · exact Returns.bind (returns_perform _) fun _ _ => Returns.pure trivial
  · exact Returns.pure trivial

/-- Reading changes the waiting tokens, leaves traces and hands on what came of it. -/
theorem read_apply (text : String) (session : Session) :
    read text session =
      (emit ((Reading.ofText session.limits.reading session.pending text).traces.map .trace) >>=
        fun _ => match (Reading.ofText session.limits.reading session.pending text).outcome with
        | .ok expr? => pure (.ok expr?)
        | .error (.refused error) => pure (.error error)
        | .error (.escaped escape) => throw escape : Step (Except ParseError (Option Expr)))
      { session with
        pending := (Reading.ofText session.limits.reading session.pending text).pending } := rfl

/-- Reading a text that does not end in a blank returns the expression that a sentence stands for,
nothing yet, or an error that is no guard. -/
theorem returns_read {text : String} (unpadded : Text.Unpadded text.toList) :
    Returns (fun outcome => (∀ code, outcome = .ok (some code) → code.Written) ∧
      ∀ error, outcome = .error error → error.isGuard = false) (read text) := by
  intro session sound
  have reading := Reading.sound_ofText session.limits.reading sound.pending unpadded
  rw [read_apply]
  generalize Reading.ofText session.limits.reading session.pending text = result at reading ⊢
  obtain ⟨_, after, noted, -, still⟩ := returns_emit (unguarded_traces result.traces)
    { session with pending := result.pending }
    ⟨reading.pending, sound.functions, sound.last, sound.events⟩
  rw [bind_of_ok noted]
  cases outcome : result.outcome with
  | ok expr? =>
    refine ⟨.ok expr?, after, rfl, ⟨fun code same => ?_, nofun⟩, still⟩
    exact reading.written code (by rw [outcome, Except.ok.inj same])
  | error stop =>
    have ordinary := reading.ordinary stop outcome
    cases stop with
    | refused error =>
      refine ⟨.error error, after, rfl, ⟨nofun, ?_⟩, still⟩
      rintro _ ⟨⟩
      exact ordinary
    | escaped escape => exact ordinary.elim

/-- Evaluating what a sentence stands for returns a value or a fault that is no guard. -/
theorem returns_evaluate {code : Expr} (written : code.Written) :
    Returns (fun outcome => ∀ fault, outcome = .error fault → fault.isGuard = false)
      (evaluate code) := by
  intro session sound
  let run : Run := ⟨session.environment, session.events⟩
  let budget := session.limits.evaluating
  have functions := Eval.written_discipline.keeps_expr budget written run sound.functions
  have last := Eval.keeps_contains lastName budget code run sound.last
  have events := Eval.keeps_unguarded budget code run sound.events
  unfold evaluate
  cases ended : Eval.expr budget code run with
  | ok value after =>
    rw [ended] at functions last events
    exact ⟨.ok value, _, rfl, nofun, sound.pending, functions, last, events⟩
  | error fault after =>
    rw [ended] at functions last events
    refine ⟨.error fault, _, rfl, ?_, sound.pending, functions.1, last.1, events.1⟩
    rintro _ ⟨⟩
    exact functions.2

/-- Keeping a value as the last one returns. -/
theorem returns_keepLast (value : Value) : Returns (fun _ => True) (keepLast value) := by
  intro session sound
  have assigned : session.environment.locals.assign lastName value =
      .ok (session.environment.locals.insert lastName value) := if_pos sound.last
  unfold keepLast
  rw [get_bind, assigned]
  exact ⟨(), _, rfl, trivial, sound.pending, sound.functions,
    Table.contains_insert sound.last lastName value, sound.events⟩

/-- Showing a result and keeping it returns. -/
theorem returns_conclude (value : Value) : Returns (fun _ => True) (conclude value) := by
  intro session sound
  have kept := returns_keepLast value
  obtain ⟨batch, pending, environment, events, limits⟩ := session
  cases batch with
  | true => exact kept _ sound
  | false => exact Returns.bind (returns_emit_singleton rfl) (fun _ _ => kept) _ sound

/-- Reading and evaluating a text that does not end in a blank returns. -/
theorem returns_submitExpr {text : String} (unpadded : Text.Unpadded text.toList) :
    Returns (fun _ => True) (submitExpr text) := by
  refine Returns.bind (returns_read unpadded) fun outcome ⟨written, ordinary⟩ => ?_
  rcases outcome with error | _ | code
  · exact Returns.bind (returns_emit_singleton (ordinary error rfl)) fun _ _ => Returns.pure trivial
  · exact Returns.pure trivial
  · refine Returns.bind (returns_evaluate (written code rfl)) fun outcome ordinary => ?_
    rcases outcome with fault | value
    · exact Returns.bind (returns_emit_singleton (ordinary fault rfl)) fun _ _ =>
        Returns.pure trivial
    · exact Returns.bind (returns_conclude value) fun _ _ => Returns.pure trivial

/-- Taking items in order returns if taking each one does. -/
theorem returns_allOf {step : α → Step Bool} {items : List α}
    (returns : ∀ item ∈ items, Returns (fun _ => True) (step item)) :
    Returns (fun _ => True) (allOf step items) := by
  induction items with
  | nil => exact Returns.pure trivial
  | cons first rest ih =>
    refine Returns.bind (returns first List.mem_cons_self) fun succeeded _ => ?_
    cases succeeded with
    | true => exact ih fun item inside => returns item (List.mem_cons_of_mem first inside)
    | false => exact Returns.pure trivial

/-- A line that is no command is taken as its pieces. -/
theorem submitLine_of_ofLine?_eq_none {line : String}
    (plain : Command.ofLine? (Text.trim line) = none) :
    submitLine line = allOf submitExpr (Text.pieces line) := by
  unfold submitLine obey
  rw [plain]
  rfl

/-- A line that is a command carries it out. -/
theorem submitLine_of_ofLine?_eq_some {line : String} {command : Command}
    (given : Command.ofLine? (Text.trim line) = some command) :
    submitLine line = do
      perform command
      return true := by
  unfold submitLine obey
  rw [given]
  simp

/-- Taking a line returns. -/
theorem returns_submitLine (line : String) : Returns (fun _ => True) (submitLine line) := by
  refine Returns.bind (returns_obey line) fun obeyed _ => ?_
  cases obeyed with
  | true => exact Returns.pure trivial
  | false =>
    exact returns_allOf fun piece inside => returns_submitExpr (Text.unpadded_of_mem_pieces inside)

/-- Taking a text returns. -/
theorem returns_submitText (text : String) : Returns (fun _ => True) (submitText text) :=
  returns_allOf fun line _ => returns_submitLine line

/-- A call on a session. -/
inductive Call where
  /-- Take a line. -/
  | line (text : String)
  /-- Take the lines of a text. -/
  | lines (text : String)
  /-- Try a line as a command. -/
  | command (text : String)
  /-- Forget all variables and functions. -/
  | reset
deriving DecidableEq, Repr

/-- Carry out a call; forgetting has no answer. -/
def Call.answer : Call → Step (Option Bool)
  | .line text => do return some (← submitLine text)
  | .lines text => do return some (← submitText text)
  | .command text => do return some (← obey text)
  | .reset => do
    Session.reset
    return none

/-- Calls return. -/
theorem returns_answer (call : Call) : Returns (fun _ => True) call.answer := by
  cases call with
  | line text => exact Returns.bind (returns_submitLine text) fun _ _ => Returns.pure trivial
  | lines text => exact Returns.bind (returns_submitText text) fun _ _ => Returns.pure trivial
  | command text => exact Returns.bind (returns_obey text) fun _ _ => Returns.pure trivial
  | reset => exact Returns.bind returns_reset fun _ _ => Returns.pure trivial

/-- Calls one after another return. -/
theorem returns_mapM_answer (calls : List Call) :
    Returns (fun _ => True) (calls.mapM Call.answer) := by
  induction calls with
  | nil => exact Returns.pure trivial
  | cons first rest ih =>
    rw [List.mapM_cons]
    refine Returns.bind (returns_answer first) fun answer _ => ?_
    exact Returns.bind ih fun answers _ => Returns.pure trivial

/-- Every call on a session returns: whatever calls are made on a new session, one after another and
with any texts, all of them are answered, and no failure that was reported is a guard. -/
theorem answers_all_calls (batch : Bool) (limits : Limits) (calls : List Call) :
    ∃ answers session,
      calls.mapM Call.answer { start batch with limits } = .ok answers session ∧
      ∀ event ∈ session.events, event.isGuard = false := by
  obtain ⟨answers, session, ended, -, sound⟩ :=
    returns_mapM_answer calls { start batch with limits } (sound_start batch limits)
  exact ⟨answers, session, ended, sound.events⟩

end Session

end PrefixCalc
