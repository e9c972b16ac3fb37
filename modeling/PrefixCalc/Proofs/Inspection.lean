import PrefixCalc.Proofs.Steering
import PrefixCalc.Proofs.Taking

/-!
# Inspection

The commands that show the environment, show the last value and switch batch mode
inspect the session: they add lines to the first output and change nothing that
later lines depend on. Two sessions agree if they differ in what they have shown and
in batch mode alone. Every line keeps agreement, and a line that inspects keeps it
even if one of the two sessions alone takes it. So such lines may be put in and taken
out anywhere, in either mode, and nothing else changes
(`inspection_does_not_interfere`).
-/

namespace PrefixCalc

/-! ## Events that show something -/

namespace Event

/-- Whether an event shows something about the session on the first output. -/
def isDisplay : Event → Bool
  | .result _ | .lastValue _ | .listing _ | .batchMode _ => true
  | .printed _ | .parseFailure _ | .evalFailure _ | .trace _ => false

/-- The line that a program prints with an event, if it does. -/
def printedLine? : Event → Option String
  | .printed value => some value.text
  | _ => none

/-- The events but those that show something. -/
def essentials (events : Array Event) : List Event :=
  events.toList.filter fun event => !event.isDisplay

/-- The lines that programs print. -/
def printedLines (events : Array Event) : List String :=
  events.toList.filterMap printedLine?

/-- An event behind others stays if it shows nothing. -/
theorem essentials_push (events : Array Event) (event : Event) :
    essentials (events.push event) =
      essentials events ++ [event].filter fun event => !event.isDisplay := by
  unfold essentials
  rw [Array.toList_push, List.filter_append]

/-- Some events behind others stay if they show nothing. -/
theorem essentials_append (events : Array Event) (more : List Event) :
    essentials (events ++ more) =
      essentials events ++ more.filter fun event => !event.isDisplay := by
  unfold essentials
  rw [Array.toList_appendList, List.filter_append]

/-- Lines that come from essential events alone depend on those only. -/
theorem filterMap_essentials {line? : Event → Option String}
    (silent : ∀ event, event.isDisplay = true → line? event = none) (events : Array Event) :
    (essentials events).filterMap line? = events.toList.filterMap line? := by
  unfold essentials
  rw [List.filterMap_filter]
  refine List.filterMap_congr fun event _ => ?_
  cases shown : event.isDisplay with
  | true => simp [silent event shown]
  | false => rfl

/-- What is shown is not written on the second output. -/
theorem errLine?_of_isDisplay (traces : Bool) (event : Event) (shown : event.isDisplay = true) :
    event.errLine? traces = none := by
  cases event with
  | result | lastValue | listing | batchMode => rfl
  | printed | parseFailure | evalFailure | trace => cases shown

/-- What is shown is not printed by a program. -/
theorem printedLine?_of_isDisplay (event : Event) (shown : event.isDisplay = true) :
    event.printedLine? = none := by
  cases event with
  | result | lastValue | listing | batchMode => rfl
  | printed | parseFailure | evalFailure | trace => cases shown

/-- The lines that programs print stand on the first output in the same order. -/
theorem printedLines_sublist (events : Array Event) :
    (printedLines events).Sublist (outLines events) := by
  unfold printedLines outLines
  induction events.toList with
  | nil => exact List.Sublist.slnil
  | cons event rest ih =>
    cases event with
    | printed value => exact ih.cons_cons value.text
    | result value | lastValue value => exact ih.cons value.text
    | listing text => exact ih.cons text
    | batchMode on => cases on <;> exact ih.cons _
    | parseFailure | evalFailure | trace => exact ih

end Event

/-! ## Lists with extra items -/

/-- Whether a list becomes another one when extra items are put in and taken out. -/
inductive Edited {α : Type} (extra : α → Prop) : List α → List α → Prop
  | nil : Edited extra [] []
  /-- An item stays. -/
  | kept (item : α) {items others : List α} : Edited extra items others →
    Edited extra (item :: items) (item :: others)
  /-- An item is put in. -/
  | inserted {item : α} {items others : List α} : extra item → Edited extra items others →
    Edited extra items (item :: others)
  /-- An item is taken out. -/
  | deleted {item : α} {items others : List α} : extra item → Edited extra items others →
    Edited extra (item :: items) others

namespace Session

/-! ## Sessions that agree -/

/-- Whether two sessions differ in what they have shown and in batch mode alone. -/
structure Agree (session twin : Session) : Prop where
  /-- The same tokens wait. -/
  pending : session.pending = twin.pending
  /-- The variables and functions are the same. -/
  environment : session.environment = twin.environment
  /-- What has happened is the same but for what was shown. -/
  events : Event.essentials session.events = Event.essentials twin.events
  /-- Expressions may nest as deep. -/
  limits : session.limits = twin.limits

namespace Agree

variable {session twin other : Session}

/-- A session agrees with itself. -/
theorem refl (session : Session) : Agree session session :=
  ⟨rfl, rfl, rfl, rfl⟩

/-- Agreement goes both ways. -/
theorem symm (agree : Agree session twin) : Agree twin session :=
  ⟨agree.pending.symm, agree.environment.symm, agree.events.symm, agree.limits.symm⟩

/-- Agreement goes on. -/
theorem trans (first : Agree session twin) (second : Agree twin other) : Agree session other :=
  ⟨first.pending.trans second.pending, first.environment.trans second.environment,
    first.events.trans second.events, first.limits.trans second.limits⟩

/-- A session that has shown something agrees with what it was. -/
theorem of_display {event : Event} (shown : event.isDisplay = true) (batch : Bool)
    (session : Session) :
    Agree { session with batch, events := session.events ++ [event] } session where
  pending := rfl
  environment := rfl
  events := by
    rw [Event.essentials_append]
    simp [shown]
  limits := rfl

end Agree

/-! ## Steps in sessions that agree -/

section

variable {session twin : Session}

/-- Whether a step goes alike in sessions that agree. -/
def Uniform {α : Type} (action : Step α) : Prop :=
  GoAlike Eq Eq Agree action action

/-- A result alone is returned alike. -/
theorem Uniform.pure {α : Type} (result : α) : Uniform (pure result : Step α) :=
  GoAlike.pure rfl

/-- Uniform steps, one after another, are uniform together. -/
theorem Uniform.bind {α β : Type} {action : Step α} {next : α → Step β} (first : Uniform action)
    (second : ∀ result, Uniform (next result)) : Uniform (action >>= next) := by
  refine GoAlike.bind first fun {result other} same => ?_
  rw [← same]
  exact second result

/-- Events are noted alike. -/
theorem uniform_emit (events : List Event) : Uniform (emit events) := by
  intro session twin agree
  refine .ok rfl ⟨agree.pending, agree.environment, ?_, agree.limits⟩
  show Event.essentials (session.events ++ events) = Event.essentials (twin.events ++ events)
  rw [Event.essentials_append, Event.essentials_append, agree.events]

/-- Forgetting goes alike. -/
theorem uniform_reset : Uniform reset :=
  fun _ _ agree => .ok rfl ⟨agree.pending, rfl, agree.events, agree.limits⟩

/-- A text is read alike. -/
theorem Agree.reading (agree : Agree session twin) (text : String) :
    session.reading text = twin.reading text := by
  unfold Session.reading
  rw [agree.limits, agree.pending]

/-- Sessions that agree do so after a text is read. -/
theorem Agree.afterReading (agree : Agree session twin) (text : String) :
    Agree (session.afterReading text) (twin.afterReading text) where
  pending := congrArg Reading.pending (agree.reading text)
  environment := agree.environment
  events := by
    unfold Session.afterReading
    rw [Event.essentials_append, Event.essentials_append, agree.events, agree.reading text]
  limits := agree.limits

/-- Reading goes alike. -/
theorem uniform_read (text : String) : Uniform (read text) := by
  intro session twin agree
  have still := agree.afterReading text
  have same := agree.reading text
  cases given : (session.reading text).outcome with
  | ok code? =>
    rw [read_of_ok given, read_of_ok (same ▸ given)]
    exact .ok rfl still
  | error stop =>
    cases stop with
    | refused error =>
      rw [read_of_refused given, read_of_refused (same ▸ given)]
      exact .ok rfl still
    | escaped escape =>
      rw [read_of_escaped given, read_of_escaped (same ▸ given)]
      exact .error rfl still

/-- Evaluating goes alike. -/
theorem uniform_evaluate (code : Expr) : Uniform (evaluate code) := by
  intro session twin agree
  have push : ∀ {earlier others : Array Event} (event : Event),
      Event.essentials earlier = Event.essentials others →
      Event.essentials (earlier.push event) = Event.essentials (others.push event) := by
    intro earlier others event same
    rw [Event.essentials_push, Event.essentials_push, same]
  have ends : EndAlike Eq Eq (fun after last : Run => after.environment = last.environment ∧
      Event.essentials after.events = Event.essentials last.events)
      (Eval.expr session.limits.evaluating code ⟨session.environment, session.events⟩)
      (Eval.expr twin.limits.evaluating code ⟨twin.environment, twin.events⟩) := by
    rw [← agree.limits, ← agree.environment]
    exact Eval.ends_from_past
      (fun earlier others => Event.essentials earlier = Event.essentials others) push
      session.limits.evaluating code session.environment agree.events
  unfold evaluate
  generalize Eval.expr session.limits.evaluating code ⟨session.environment, session.events⟩ =
    outcome, Eval.expr twin.limits.evaluating code ⟨twin.environment, twin.events⟩ = ended at ends
  cases ends with
  | ok same paired =>
    exact .ok (congrArg Except.ok same) ⟨agree.pending, paired.1, paired.2, agree.limits⟩
  | error same paired =>
    exact .ok (congrArg Except.error same) ⟨agree.pending, paired.1, paired.2, agree.limits⟩

/-- A value is kept alike. -/
theorem uniform_keepLast (value : Value) : Uniform (keepLast value) := by
  intro session twin agree
  unfold keepLast
  rw [get_bind, get_bind, ← agree.environment]
  cases session.environment.locals.assign lastName value with
  | error fault => exact .error rfl agree
  | ok locals =>
    have functions : session.environment.functions = twin.environment.functions :=
      congrArg Environment.functions agree.environment
    refine .ok rfl ⟨agree.pending, ?_, agree.events, agree.limits⟩
    exact congrArg (Environment.mk locals) functions

/-- The session after a result is shown, which it is unless in batch mode. -/
def showing (session : Session) (value : Value) : Session :=
  if session.batch then session
  else { session with events := session.events ++ [Event.result value] }

/-- A result is shown and then kept. -/
theorem conclude_apply (value : Value) (session : Session) :
    conclude value session = keepLast value (session.showing value) := by
  obtain ⟨batch, pending, environment, events, limits⟩ := session
  cases batch <;> rfl

/-- Showing a result is no matter. -/
theorem agree_showing (session : Session) (value : Value) :
    Agree (session.showing value) session := by
  unfold showing
  split
  · exact .refl session
  · exact .of_display rfl session.batch session

/-- Results are shown and kept alike, whatever the modes are. -/
theorem uniform_conclude (value : Value) : Uniform (conclude value) := by
  intro session twin agree
  have shown : Agree (session.showing value) (twin.showing value) :=
    ((agree_showing session value).trans agree).trans (agree_showing twin value).symm
  rw [conclude_apply, conclude_apply]
  exact uniform_keepLast value _ _ shown

/-- Texts are taken alike. -/
theorem uniform_submitExpr (text : String) : Uniform (submitExpr text) := by
  refine Uniform.bind (uniform_read text) fun outcome => ?_
  rcases outcome with error | _ | code
  · exact Uniform.bind (uniform_emit [.parseFailure error]) fun _ => .pure false
  · exact .pure true
  · refine Uniform.bind (uniform_evaluate code) fun outcome => ?_
    cases outcome with
    | error fault => exact Uniform.bind (uniform_emit [.evalFailure fault]) fun _ => .pure false
    | ok value => exact Uniform.bind (uniform_conclude value) fun _ => .pure true

/-- Items are taken alike if each one is. -/
theorem uniform_allOf {α : Type} {step : α → Step Bool} (uniform : ∀ item, Uniform (step item))
    (items : List α) : Uniform (allOf step items) := by
  induction items with
  | nil => exact .pure true
  | cons first rest ih =>
    refine Uniform.bind (uniform first) fun success => ?_
    cases success with
    | true => exact ih
    | false => exact .pure false

end

/-! ## Lines that inspect the session -/

/-- Whether a line is a command that shows the environment or the last value or switches batch
mode. -/
def Inspects (line : String) : Prop :=
  Text.trim line ∈ [":env", ":last", ":batch"]

instance : DecidablePred Inspects :=
  fun line => inferInstanceAs (Decidable (Text.trim line ∈ _))

/-- The lines that inspect are the commands but the one that forgets. -/
theorem inspects_iff {line : String} :
    Inspects line ↔
      ∃ command, Command.ofLine? (Text.trim line) = some command ∧ command ≠ .reset := by
  unfold Inspects Command.ofLine?
  generalize Text.trim line = word
  by_cases env : word = ":env"
  · simp [env]
  · by_cases reset : word = ":reset"
    · simp [reset]
    · by_cases batch : word = ":batch"
      · simp [batch]
      · by_cases last : word = ":last"
        · simp [last]
        · simp [env, reset, batch, last]

/-- A command that inspects leaves a sound session in agreement with what it was. -/
theorem perform_of_ne_reset {session : Session} (sound : Sound session) {command : Command}
    (keeps : command ≠ .reset) :
    ∃ after, perform command session = .ok () after ∧ Agree after session := by
  cases command with
  | reset => exact absurd rfl keeps
  | environment => exact ⟨_, rfl, .of_display rfl session.batch session⟩
  | batch => exact ⟨_, rfl, .of_display rfl (!session.batch) session⟩
  | last =>
    obtain ⟨value, found⟩ := sound.exists_last
    refine ⟨{ session with events := session.events ++ [Event.lastValue value] }, ?_,
      .of_display rfl session.batch session⟩
    simp only [perform]
    rw [get_bind, found]
    rfl

/-- A line that inspects succeeds and leaves a sound session in agreement with what it was. -/
theorem submitLine_of_inspects {session : Session} (sound : Sound session) {line : String}
    (inspects : Inspects line) :
    ∃ after, submitLine line session = .ok true after ∧ Sound after ∧ Agree after session := by
  obtain ⟨command, given, keeps⟩ := inspects_iff.mp inspects
  obtain ⟨after, performed, agree⟩ := perform_of_ne_reset sound keeps
  have taken : submitLine line session = .ok true after := by
    rw [submitLine_of_ofLine?_eq_some given]
    exact bind_of_ok performed
  obtain ⟨_, _, again, -, soundAfter⟩ := returns_submitLine line session sound
  rw [taken] at again
  cases again
  exact ⟨after, taken, soundAfter, agree⟩

/-- A line that does more is taken alike. -/
theorem uniform_submitLine {line : String} (does : ¬ Inspects line) :
    Uniform (submitLine line) := by
  cases given : Command.ofLine? (Text.trim line) with
  | none =>
    rw [submitLine_of_ofLine?_eq_none given]
    exact uniform_allOf uniform_submitExpr (Text.pieces line)
  | some command =>
    have forgets : command = .reset := by
      by_contra other
      exact does (inspects_iff.mpr ⟨command, given, other⟩)
    rw [submitLine_of_ofLine?_eq_some given, forgets]
    exact Uniform.bind uniform_reset fun _ => .pure true

/-! ## Runs -/

/-- Take lines until one fails; the lines that are taken, each with its answer. -/
def feed : List String → Step (List (String × Bool))
  | [] => return []
  | line :: rest => do
    let success ← submitLine line
    if success then
      return (line, success) :: (← feed rest)
    else
      return [(line, success)]

/-- Whether a line that was taken inspects, and was answered with success. -/
def Inspected (taken : String × Bool) : Prop :=
  Inspects taken.1 ∧ taken.2 = true

section

variable {session twin : Session}

/-- Any line is answered alike in sessions that agree and leaves sessions that agree. -/
theorem submitLine_of_agree (sound : Sound session) (sane : Sound twin) (agree : Agree session twin)
    (line : String) :
    ∃ answer after last, submitLine line session = .ok answer after ∧
      submitLine line twin = .ok answer last ∧ Sound after ∧ Sound last ∧ Agree after last := by
  by_cases inspects : Inspects line
  · obtain ⟨after, taken, soundAfter, same⟩ := submitLine_of_inspects sound inspects
    obtain ⟨last, takenTwin, saneLast, sameTwin⟩ := submitLine_of_inspects sane inspects
    have still : Agree after last := (same.trans agree).trans sameTwin.symm
    exact ⟨true, after, last, taken, takenTwin, soundAfter, saneLast, still⟩
  · obtain ⟨answer, after, taken, -, soundAfter⟩ := returns_submitLine line session sound
    obtain ⟨reply, last, takenTwin, -, saneLast⟩ := returns_submitLine line twin sane
    have ends := uniform_submitLine inspects session twin agree
    rw [taken, takenTwin] at ends
    cases ends with
    | ok same still =>
      rw [← same] at takenTwin
      exact ⟨answer, after, last, taken, takenTwin, soundAfter, saneLast, still⟩

/-- A line that succeeds is followed by the others. -/
theorem feed_of_true {line : String} {after : Session}
    (taken : submitLine line session = .ok true after) {rest : List String}
    {answers : List (String × Bool)} {last : Session} (later : feed rest after = .ok answers last) :
    feed (line :: rest) session = .ok ((line, true) :: answers) last := by
  rw [feed, bind_of_ok taken]
  exact bind_of_ok later

/-- A line that fails is the last one. -/
theorem feed_of_false {line : String} {after : Session}
    (taken : submitLine line session = .ok false after) (rest : List String) :
    feed (line :: rest) session = .ok [(line, false)] after := by
  rw [feed, bind_of_ok taken]
  rfl

/-- In sessions that agree, lists that differ in lines that inspect are taken with answers that
differ in such lines only, and leave sessions that agree. -/
theorem feed_of_agree {lines others : List String} (edited : Edited Inspects lines others)
    (sound : Sound session) (sane : Sound twin) (agree : Agree session twin) :
    ∃ taken after takenTwin last, feed lines session = .ok taken after ∧
      feed others twin = .ok takenTwin last ∧ Edited Inspected taken takenTwin ∧
      Agree after last := by
  -- The induction follows the edits; one session stands still while the other is inspected.
  induction edited generalizing session twin with
  | nil => exact ⟨[], session, [], twin, rfl, rfl, .nil, agree⟩
  | @kept line rest others _ ih =>
    obtain ⟨answer, after, last, given, givenTwin, soundAfter, saneLast, still⟩ :=
      submitLine_of_agree sound sane agree line
    cases answer with
    | false =>
      exact ⟨_, after, _, last, feed_of_false given rest, feed_of_false givenTwin others,
        .kept (line, false) .nil, still⟩
    | true =>
      obtain ⟨taken, final, takenTwin, finalTwin, fed, fedTwin, alike, agreed⟩ :=
        ih soundAfter saneLast still
      exact ⟨_, final, _, finalTwin, feed_of_true given fed, feed_of_true givenTwin fedTwin,
        .kept (line, true) alike, agreed⟩
  | inserted inspects _ ih =>
    obtain ⟨next, given, saneNext, same⟩ := submitLine_of_inspects sane inspects
    obtain ⟨taken, final, takenTwin, finalTwin, fed, fedTwin, alike, agreed⟩ :=
      ih sound saneNext (agree.trans same.symm)
    exact ⟨_, final, _, finalTwin, fed, feed_of_true given fedTwin, .inserted ⟨inspects, rfl⟩ alike,
      agreed⟩
  | deleted inspects _ ih =>
    obtain ⟨next, given, soundNext, same⟩ := submitLine_of_inspects sound inspects
    obtain ⟨taken, final, takenTwin, finalTwin, fed, fedTwin, alike, agreed⟩ :=
      ih soundNext sane (same.trans agree)
    exact ⟨_, final, _, finalTwin, feed_of_true given fed, fedTwin, .deleted ⟨inspects, rfl⟩ alike,
      agreed⟩

end

/-- Neither the mode nor lines that inspect interfere. Two new sessions whose lines differ in
nothing else take the other lines with the same answers, print the same and end in the same
environment. -/
theorem inspection_does_not_interfere {lines others : List String}
    (edited : Edited Inspects lines others) (batch batchTwin : Bool) (limits : Limits) :
    ∃ taken after takenTwin last,
      feed lines { start batch with limits } = .ok taken after ∧
      feed others { start batchTwin with limits } = .ok takenTwin last ∧
      Edited Inspected taken takenTwin ∧
      (∀ traces, errText traces after.events.toList = errText traces last.events.toList) ∧
      after.environment = last.environment ∧
      after.pending = last.pending ∧
      Event.printedLines after.events = Event.printedLines last.events ∧
      (Event.printedLines after.events).Sublist (outLines after.events) ∧
      (Event.printedLines last.events).Sublist (outLines last.events) := by
  have agree : Agree { start batch with limits } { start batchTwin with limits } :=
    ⟨rfl, rfl, rfl, rfl⟩
  obtain ⟨taken, after, takenTwin, last, fed, fedTwin, alike, agreed⟩ :=
    feed_of_agree edited (sound_start batch limits) (sound_start batchTwin limits) agree
  refine ⟨taken, after, takenTwin, last, fed, fedTwin, alike, ?_, agreed.environment,
    agreed.pending, ?_, Event.printedLines_sublist after.events,
    Event.printedLines_sublist last.events⟩
  · intro traces
    have silent := Event.errLine?_of_isDisplay traces
    unfold errText
    rw [← Event.filterMap_essentials silent, agreed.events, Event.filterMap_essentials silent]
  · have silent := Event.printedLine?_of_isDisplay
    unfold Event.printedLines
    rw [← Event.filterMap_essentials silent, agreed.events, Event.filterMap_essentials silent]

/-- Inspection does not interfere with an unfinished definition, nor with a line that fails. -/
theorem inspection_does_not_interfere_definition :
    let lines := ["def f x begin", "xprint x", "end", ":last", "call f 2 cend; + 1 true", "3"]
    let others := ["def f x begin", ":env", " :batch ", "xprint x", ":last", "end",
      "call f 2 cend; + 1 true", ":env", "3"]
    Edited Inspects lines others ∧
    ∃ taken after takenTwin last,
      feed lines (start false) = .ok taken after ∧
      feed others (start true) = .ok takenTwin last ∧
      Edited Inspected taken takenTwin ∧
      after.environment = last.environment ∧
      Event.printedLines after.events = ["2"] ∧
      Event.printedLines last.events = ["2"] := by
  intro lines others
  have edited : Edited Inspects lines others :=
    .kept _ (.inserted (by decide +kernel) (.inserted (by decide +kernel) (.kept _
      (.inserted (by decide +kernel) (.kept _ (.deleted (by decide +kernel) (.kept _
        (.inserted (by decide +kernel) (.kept _ .nil)))))))))
  obtain ⟨taken, after, takenTwin, last, fed, fedTwin, alike, -, environment, -, printed, -⟩ :=
    inspection_does_not_interfere edited false true {}
  have once : Event.printedLines (stateAfter (feed lines) (start false)).events = ["2"] := by
    decide +kernel
  have reached : stateAfter (feed lines) (start false) = after := stateAfter_of_ok fed
  rw [reached] at once
  exact ⟨edited, taken, after, takenTwin, last, fed, fedTwin, alike, environment, once,
    printed.symm.trans once⟩

-- The value is printed by the function, and then shown as the last one.
example :
    let lines := ["def f x begin", ":batch", "xprint x; end", "call f 2 cend", ":last"]
    outLines (stateAfter (feed lines) (start false)).events = ["batch mode on", "2", "2"] := by
  decide +kernel

end Session

end PrefixCalc
