import PrefixCalc.CommandLine
import PrefixCalc.Proofs.Answers

/-!
# Checking and running agree on syntax

A check reads every expression of a text and collects the errors. A run stops at the
first failure, evaluates in between and knows commands. What both have in common is
the reader: without commands a run gives it the pieces that a check gives it
(`submitText_eq`), and only texts change the tokens that wait. So both are compared
with `Reading.AcceptsAll`, which says that each text is read or held back. A check has
no errors exactly then (`exists_checkEach`), and a run that succeeds has shown it
(`allOf_submitExpr_eq_ok`). No command is among such texts, since its word has no kind.
-/

namespace PrefixCalc

/-! ## Texts that are read one after another -/

namespace Reading

/-- Whether a text was read or held back. -/
def Accepts (reading : Reading) : Prop :=
  ∃ code?, reading.outcome = .ok code?

/-- Whether each of some texts, read one after another behind waiting tokens, is read or held
back. -/
def AcceptsAll (limit : Nat) (pending : Buffer) : List String → Prop
  | [] => True
  | text :: rest =>
    (ofText limit pending text).Accepts ∧ AcceptsAll limit (ofText limit pending text).pending rest

/-- The tokens that wait after some texts, read one after another behind waiting tokens. -/
def pendingBehind (limit : Nat) (pending : Buffer) (texts : List String) : Buffer :=
  texts.foldl (fun pending text => (ofText limit pending text).pending) pending

/-- Each of some texts is read or held back behind some tokens if all are. -/
theorem AcceptsAll.exists_accepts {limit : Nat} {pending : Buffer} {texts : List String}
    (all : AcceptsAll limit pending texts) {text : String} (inside : text ∈ texts) :
    ∃ before, (ofText limit before text).Accepts := by
  induction texts generalizing pending with
  | nil => cases inside
  | cons first rest ih =>
    rcases List.mem_cons.mp inside with rfl | later
    · exact ⟨pending, all.1⟩
    · exact ih all.2 later

/-- A text without tokens is neither read nor held back. -/
theorem not_accepts_of_scan_eq_error {text : String} {error : ScanError}
    (failed : Token.scan text = .error error) (limit : Nat) (pending : Buffer) :
    ¬ (ofText limit pending text).Accepts := by
  rintro ⟨code?, accepted⟩
  rw [ofText_of_error failed] at accepted
  cases error <;> cases accepted

end Reading

/-! ## Checks -/

namespace CommandLine

open Reading

/-- Checking a text changes the waiting tokens and keeps an error that comes of it. -/
theorem checkExpr_apply (limit : Nat) (text : String) (check : Check) :
    checkExpr limit text check =
      (match (ofText limit check.pending text).outcome with
        | .ok _ => return
        | .error (.refused error) =>
          modify fun check => { check with errors := error :: check.errors }
        | .error (.escaped escape) => throw escape : EStateM Escape Check Unit)
      { check with
        pending := (ofText limit check.pending text).pending
        traces := (ofText limit check.pending text).traces.reverse ++ check.traces } := rfl

/-- Checking a text that does not end in a blank returns. It changes the waiting tokens as reading
does and finds an error unless the text is read or held back. -/
theorem exists_checkExpr (limit : Nat) {text : String} (unpadded : Text.Unpadded text.toList)
    (check : Check) (lexed : Buffer.Lexed check.pending) :
    ∃ checked found, checkExpr limit text check = .ok () checked ∧
      checked.pending = (ofText limit check.pending text).pending ∧
      checked.errors = found ++ check.errors ∧
      (found = [] ↔ (ofText limit check.pending text).Accepts) := by
  have sound := sound_ofText limit lexed unpadded
  rw [checkExpr_apply]
  generalize ofText limit check.pending text = reading at sound ⊢
  unfold Accepts
  cases outcome : reading.outcome with
  | ok code? => exact ⟨_, [], rfl, rfl, rfl, fun _ => ⟨code?, rfl⟩, fun _ => rfl⟩
  | error stop =>
    have ordinary := sound.ordinary stop outcome
    cases stop with
    | refused error => exact ⟨_, [error], rfl, rfl, rfl, nofun, nofun⟩
    | escaped escape => exact ordinary.elim

/-- Checking texts that do not end in blanks returns. It finds no error exactly if each text is read
or held back. -/
theorem exists_checkEach (limit : Nat) {texts : List String}
    (unpadded : ∀ text ∈ texts, Text.Unpadded text.toList) (check : Check)
    (lexed : Buffer.Lexed check.pending) :
    ∃ checked found, checkEach limit texts check = .ok () checked ∧
      checked.pending = pendingBehind limit check.pending texts ∧
      checked.errors = found ++ check.errors ∧
      (found = [] ↔ AcceptsAll limit check.pending texts) := by
  induction texts generalizing check with
  | nil => exact ⟨check, [], rfl, rfl, rfl, fun _ => trivial, fun _ => rfl⟩
  | cons text rest ih =>
    have unpaddedText := unpadded text List.mem_cons_self
    obtain ⟨middle, first, ended, pending, errors, none⟩ :=
      exists_checkExpr limit unpaddedText check lexed
    have still : Buffer.Lexed middle.pending := by
      rw [pending]
      exact (sound_ofText limit lexed unpaddedText).pending
    obtain ⟨checked, later, endedLater, pendingLater, errorsLater, noneLater⟩ :=
      ih (fun other inside => unpadded other (List.mem_cons_of_mem text inside)) middle still
    rw [pending] at pendingLater noneLater
    refine ⟨checked, later ++ first, ?_, pendingLater, ?_, ?_⟩
    · exact (bind_of_ok ended).trans endedLater
    · rw [errorsLater, errors, List.append_assoc]
    · rw [List.append_eq_nil_iff, none, noneLater, and_comm]
      rfl

end CommandLine

/-! ## The lines of events -/

namespace Double

/-- A fraction is written without colons if its digits have none. -/
theorem colon_not_mem_writeFraction {digits : List Char} (absent : ':' ∉ digits) :
    ':' ∉ writeFraction digits := by
  have kept : ':' ∉ (digits.reverse.dropWhile (· == '0')).reverse := by
    intro inside
    have within := List.dropWhile_subset _ (List.mem_reverse.mp inside)
    exact absent (List.mem_reverse.mp within)
  unfold writeFraction
  split
  · exact List.not_mem_nil
  · simpa using kept

/-- A decimal is written without colons. -/
theorem Decimal.colon_not_mem_write (decimal : Decimal) : ':' ∉ decimal.write := by
  have digits : ':' ∉ Nat.toDigits 10 decimal.digits := fun inside =>
    absurd (Nat.isDigit_of_mem_toDigits (by decide) (by decide) inside) (by decide)
  have zeros : ∀ count, ':' ∉ List.replicate count '0' := fun count inside =>
    absurd (List.eq_of_mem_replicate inside) (by decide)
  unfold Decimal.write
  dsimp only
  split
  · rw [List.mem_append, List.mem_append, not_or, not_or]
    refine ⟨⟨fun inside => digits (List.mem_of_mem_take inside), zeros _⟩, ?_⟩
    exact colon_not_mem_writeFraction fun inside => digits (List.mem_of_mem_drop inside)
  · rw [List.mem_cons, not_or]
    refine ⟨by decide, colon_not_mem_writeFraction ?_⟩
    rw [List.mem_append, not_or]
    exact ⟨zeros _, digits⟩

/-- A double is written without colons. -/
theorem colon_not_mem_write (x : Float) : ':' ∉ (write x).toList := by
  have magnitude : ∀ rank, ':' ∉ writeMagnitude rank := by
    intro rank
    unfold writeMagnitude
    split
    · exact Decimal.colon_not_mem_write _
    · decide
  unfold write
  split
  · decide
  · rw [String.toList_ofList, List.mem_append, not_or]
    refine ⟨?_, magnitude _⟩
    split <;> decide

end Double

/-- A value is written without colons. -/
theorem Value.colon_not_mem_text (value : Value) : ':' ∉ value.text.toList := by
  rcases value with x | _ | _
  · exact Double.colon_not_mem_write x
  · decide
  · decide

/-- What is added behind a line does not change its first letter. -/
theorem head?_append {front : String} {first : Char} (starts : front.toList.head? = some first)
    (rest : String) : (front ++ rest).toList.head? = some first := by
  rw [String.toList_append, List.head?_append, starts]
  rfl

/-- The first letter of all traces is the same. -/
theorem Trace.head?_line (step : Trace) : step.line.toList.head? = some 'D' := by
  unfold line
  split
  · iterate 4 apply head?_append
    rfl
  · rfl
  · iterate 2 apply head?_append
    rfl
  · iterate 3 apply head?_append
    rfl
  · iterate 3 apply head?_append
    rfl
  · iterate 4 apply head?_append
    rfl

namespace Event

/-- Whether an event comes from evaluating: it neither reports a parse error nor answers a
command. -/
def isEvaluation : Event → Bool
  | .printed _ | .result _ | .evalFailure _ | .trace _ => true
  | _ => false

/-- Whether a line reports a parse error. -/
def ReportsParseError (line : String) : Prop :=
  "ParseError:".toList <+: line.toList

/-- A line with another first letter reports no parse error. -/
theorem not_reportsParseError_of_head? {line : String} {first : Char}
    (starts : line.toList.head? = some first) (other : first ≠ 'P') : ¬ ReportsParseError line := by
  rintro ⟨rest, same⟩
  rw [← same] at starts
  exact other (Option.some.inj starts).symm

/-- The text of a value reports no parse error. -/
theorem not_reportsParseError_text (value : Value) : ¬ ReportsParseError value.text :=
  fun starts => value.colon_not_mem_text (starts.subset (by decide))

/-- What comes from evaluating writes no line that reports a parse error. -/
theorem not_reportsParseError_of_isEvaluation {event : Event}
    (evaluation : event.isEvaluation = true) (traces : Bool) {line : String}
    (written : event.outLine? = some line ∨ event.errLine? traces = some line) :
    ¬ ReportsParseError line := by
  cases event with
  | printed value | result value =>
    rcases written with (shown | none)
    · rw [← Option.some.inj shown]
      exact not_reportsParseError_text value
    · cases none
  | evalFailure fault =>
    rcases written with (none | reported)
    · cases none
    · rw [← Option.some.inj reported]
      exact not_reportsParseError_of_head? (head?_append rfl _) (by decide)
  | trace step =>
    rcases written with (none | noted)
    · cases none
    · rw [← Option.some.inj (Option.ite_none_right_eq_some.mp noted).2]
      exact not_reportsParseError_of_head? step.head?_line (by decide)
  | lastValue | listing | batchMode | parseFailure => cases evaluation

/-- The lines that some events write, those on the first output first. -/
def lines (traces : Bool) (events : List Event) : List String :=
  events.filterMap outLine? ++ events.filterMap (errLine? traces)

/-- What comes from evaluating writes no lines that report parse errors. -/
theorem not_reportsParseError_of_mem_lines {events : List Event}
    (evaluation : ∀ event ∈ events, event.isEvaluation = true) {traces : Bool} {line : String}
    (written : line ∈ lines traces events) : ¬ ReportsParseError line := by
  rcases List.mem_append.mp written with (out | err)
  · obtain ⟨event, inside, shown⟩ := List.mem_filterMap.mp out
    exact not_reportsParseError_of_isEvaluation (evaluation event inside) traces (.inl shown)
  · obtain ⟨event, inside, reported⟩ := List.mem_filterMap.mp err
    exact not_reportsParseError_of_isEvaluation (evaluation event inside) traces (.inr reported)

end Event

/-! ## Runs -/

namespace Session

open Reading

/-- No definition is unfinished if no tokens wait. -/
theorem isPending_eq_false_iff (session : Session) :
    session.isPending = false ↔ session.pending = [] := by
  simp [isPending]

/-- Whether all events so far come from evaluating. -/
def Quiet (session : Session) : Prop :=
  ∀ event ∈ session.events, event.isEvaluation = true

/-- What evaluating leaves as it is: the limits, the waiting tokens and, where it is asked for, that
the session is quiet. -/
structure Stays (limits : Limits) (pending : Buffer) (quiet : Prop) (session : Session) :
    Prop where
  /-- The limits are these. -/
  limits : session.limits = limits
  /-- These tokens wait. -/
  pending : session.pending = pending
  /-- The session is quiet. -/
  quiet : quiet → session.Quiet

section

variable {limits : Limits} {pending : Buffer} {quiet : Prop}

/-- Noting events of evaluations leaves a session quiet. -/
theorem keeps_emit {events : List Event} (fine : ∀ event ∈ events, event.isEvaluation = true) :
    Keeps (Stays limits pending quiet) (fun _ => True) (emit events) := by
  refine Keeps.modify fun session stays => ⟨stays.limits, stays.pending, fun asked => ?_⟩
  exact forall_mem_events_append (stays.quiet asked) fine

/-- Noting one event of an evaluation leaves a session quiet. -/
theorem keeps_emit_singleton {event : Event} (fine : event.isEvaluation = true) :
    Keeps (Stays limits pending quiet) (fun _ => True) (emit [event]) := by
  refine keeps_emit fun other inside => ?_
  rw [List.mem_singleton.mp inside]
  exact fine

/-- Evaluating reads no texts. -/
theorem keeps_evaluate (code : Expr) :
    Keeps (Stays limits pending quiet) (fun _ => True) (evaluate code) := by
  intro session stays
  let run : Run := ⟨session.environment, session.events⟩
  have events : session.Quiet → Ends _ _ (Eval.expr session.limits.evaluating code run) :=
    (Eval.Discipline.ofEvents (fun event => event.isEvaluation = true) (fun _ => rfl)
      fun _ => rfl).keeps_expr session.limits.evaluating trivial run
  unfold evaluate
  cases ended : Eval.expr session.limits.evaluating code run with
  | ok value after =>
    rw [ended] at events
    exact ⟨stays.limits, stays.pending, fun asked => events (stays.quiet asked)⟩
  | error fault after =>
    rw [ended] at events
    exact ⟨stays.limits, stays.pending, fun asked => (events (stays.quiet asked)).1⟩

/-- Keeping a value as the last one reads no texts. -/
theorem keeps_keepLast (value : Value) :
    Keeps (Stays limits pending quiet) (fun _ => True) (keepLast value) := by
  refine Keeps.bind Keeps.get fun session => ?_
  split
  · exact Keeps.modify fun _ stays => ⟨stays.limits, stays.pending, stays.quiet⟩
  · exact Keeps.throw trivial

/-- Showing a result and keeping it reads no texts. -/
theorem keeps_conclude (value : Value) :
    Keeps (Stays limits pending quiet) (fun _ => True) (conclude value) := by
  refine Keeps.bind Keeps.get fun session => ?_
  dsimp only
  split
  · exact keeps_keepLast value
  · exact Keeps.bind (keeps_emit_singleton rfl) fun _ => keeps_keepLast value

end

/-- What taking a text has done to a session, by what the reader says of the text. -/
structure Took (session : Session) (text : String) (success : Bool) (after : Session) : Prop where
  /-- The limits are the same. -/
  limits : after.limits = session.limits
  /-- The tokens that wait are those of the reader. -/
  pending : after.pending = (ofText session.limits.reading session.pending text).pending
  /-- Taking a text succeeds only if it is read or held back. -/
  accepts : success = true → (ofText session.limits.reading session.pending text).Accepts
  /-- No parse error is reported if the text is read or held back. -/
  quiet : (ofText session.limits.reading session.pending text).Accepts → session.Quiet → after.Quiet

/-- Reading a text changes the waiting tokens and leaves traces. It ends in a parse error unless the
text is read or held back. -/
theorem read_eq_ok {text : String} {session after : Session}
    {outcome : Except ParseError (Option Expr)} (ended : read text session = .ok outcome after) :
    Stays session.limits (ofText session.limits.reading session.pending text).pending session.Quiet
      after ∧
    ((∃ code?, outcome = .ok code?) ↔
      (ofText session.limits.reading session.pending text).Accepts) := by
  rw [read_apply] at ended
  generalize ofText session.limits.reading session.pending text = reading at ended ⊢
  obtain ⟨_, noted, emitted, handed⟩ := bind_eq_ok_iff.mp ended
  have changed : Stays session.limits reading.pending session.Quiet
      { session with pending := reading.pending } := ⟨rfl, rfl, id⟩
  have stays : Stays session.limits reading.pending session.Quiet noted := by
    refine (keeps_emit fun event inside => ?_).of_ok changed emitted
    obtain ⟨trace, -, rfl⟩ := List.mem_map.mp inside
    rfl
  unfold Accepts
  cases given : reading.outcome with
  | ok code? =>
    rw [given] at handed
    cases handed
    exact ⟨stays, fun _ => ⟨code?, rfl⟩, fun _ => ⟨code?, rfl⟩⟩
  | error stop =>
    rw [given] at handed
    cases stop with
    | refused error =>
      cases handed
      exact ⟨stays, nofun, nofun⟩
    | escaped escape => cases handed

/-- Taking a text does to a session what the reader says of it. -/
theorem submitExpr_eq_ok {text : String} {session after : Session} {success : Bool}
    (ended : submitExpr text session = .ok success after) : Took session text success after := by
  obtain ⟨outcome, middle, wasRead, rest⟩ := bind_eq_ok_iff.mp ended
  obtain ⟨stays, accepted⟩ := read_eq_ok wasRead
  rcases outcome with error | _ | code
  · cases rest
    refine ⟨stays.limits, stays.pending, nofun, fun accepts => ?_⟩
    obtain ⟨code?, same⟩ := accepted.mpr accepts
    cases same
  · cases rest
    exact ⟨stays.limits, stays.pending, fun _ => accepted.mp ⟨none, rfl⟩, fun _ => stays.quiet⟩
  · have accepts := accepted.mp ⟨some code, rfl⟩
    -- The text is read; what follows only evaluates.
    suffices still : Stays session.limits _ session.Quiet after from
      ⟨still.limits, still.pending, fun _ => accepts, fun _ => still.quiet⟩
    obtain ⟨outcome, evaluated, ran, rest⟩ := bind_eq_ok_iff.mp rest
    have stays := (keeps_evaluate code).of_ok stays ran
    cases outcome with
    | error fault =>
      exact (Keeps.bind (keeps_emit_singleton rfl) fun _ => Keeps.pure _).of_ok stays rest
    | ok value => exact (Keeps.bind (keeps_conclude value) fun _ => Keeps.pure _).of_ok stays rest

/-- Taking texts succeeds only if each of them is read or held back, and then it leaves the tokens
of the reader. While they are read or held back no parse error is reported. -/
theorem allOf_submitExpr_eq_ok {texts : List String} {session after : Session} {success : Bool}
    (ended : allOf submitExpr texts session = .ok success after) :
    (success = true → AcceptsAll session.limits.reading session.pending texts ∧
      after.pending = pendingBehind session.limits.reading session.pending texts) ∧
    (AcceptsAll session.limits.reading session.pending texts → session.Quiet → after.Quiet) := by
  induction texts generalizing session with
  | nil =>
    cases ended
    exact ⟨fun _ => ⟨trivial, rfl⟩, fun _ quiet => quiet⟩
  | cons text rest ih =>
    obtain ⟨succeeded, middle, first, later⟩ := bind_eq_ok_iff.mp ended
    have took := submitExpr_eq_ok first
    cases succeeded with
    | false =>
      cases later
      exact ⟨nofun, fun all => took.quiet all.1⟩
    | true =>
      obtain ⟨accepts, quiet⟩ := ih later
      rw [took.limits, took.pending] at accepts quiet
      constructor
      · intro success
        exact ⟨⟨took.accepts rfl, (accepts success).1⟩, (accepts success).2⟩
      · exact fun all wasQuiet => quiet all.2 (took.quiet all.1 wasQuiet)

/-! ## Texts without commands -/

/-- Taking items and then others is taking them all. -/
theorem allOf_append {α : Type} (step : α → Step Bool) (items others : List α) :
    allOf step (items ++ others) =
      allOf step items >>= fun success => if success then allOf step others else return false := by
  induction items with
  | nil => rfl
  | cons first rest ih =>
    change (step first >>= _) = (step first >>= _) >>= _
    rw [bind_assoc]
    refine bind_congr fun success => ?_
    cases success with
    | true => exact ih
    | false => rfl

/-- Taking items that are lists of parts is taking all parts. -/
theorem allOf_flatMap {α β : Type} {step : α → Step Bool} {partStep : β → Step Bool}
    {parts : α → List β} {items : List α}
    (same : ∀ item ∈ items, step item = allOf partStep (parts item)) :
    allOf step items = allOf partStep (items.flatMap parts) := by
  induction items with
  | nil => rfl
  | cons first rest ih =>
    rw [List.flatMap_cons, allOf_append, ← same first List.mem_cons_self,
      ← ih fun item inside => same item (List.mem_cons_of_mem first inside)]
    rfl

/-- Blank lines have no pieces. -/
theorem flatMap_pieces_filter (lines : List String) :
    (lines.filter fun line => !(Text.trim line).isEmpty).flatMap Text.pieces =
      lines.flatMap Text.pieces := by
  induction lines with
  | nil => rfl
  | cons line rest ih =>
    rw [List.filter_cons, List.flatMap_cons]
    split
    · rw [List.flatMap_cons, ih]
    · rename_i blank
      rw [ih, Text.pieces_of_blank (by simpa using blank), List.nil_append]

/-- A text without commands is taken as the pieces of its lines. -/
theorem submitText_eq {text : String}
    (plain : ∀ line ∈ Text.lines text, Command.ofLine? (Text.trim line) = none) :
    submitText text = allOf submitExpr ((Text.lines text).flatMap Text.pieces) := by
  rw [submitText, ← flatMap_pieces_filter]
  exact allOf_flatMap fun line inside =>
    submitLine_of_ofLine?_eq_none (plain line (List.mem_filter.mp inside).1)

/-- The word of a command has no semicolon and is not read, since it has no kind. -/
theorem Command.refused_of_ofLine?_eq_some {line : String} {command : Command}
    (named : ofLine? line = some command) :
    ';' ∉ line.toList ∧ line.isEmpty = false ∧ Token.scan line = .error (.invalidWord line) := by
  have listed : line ∈ [":env", ":reset", ":batch", ":last"] := by
    unfold ofLine? at named
    grind
  have words : ∀ word ∈ [":env", ":reset", ":batch", ":last"], ';' ∉ word.toList ∧
      word.isEmpty = false ∧ Text.segments word.toList = [.word word.toList] ∧
      Kind.ofWord? word = none := by
    decide +kernel
  obtain ⟨whole, filled, segments, unknown⟩ := words line listed
  refine ⟨whole, filled, ?_⟩
  rw [Token.scan, segments, Token.ofSegments, String.ofList_toList, unknown]

/-- No line is a command if all pieces are read or held back. -/
theorem ofLine?_eq_none_of_acceptsAll {limit : Nat} {pending : Buffer} {text : String}
    (all : AcceptsAll limit pending ((Text.lines text).flatMap Text.pieces)) :
    ∀ line ∈ Text.lines text, Command.ofLine? (Text.trim line) = none := by
  intro line inside
  rw [Option.eq_none_iff_forall_ne_some]
  intro command named
  obtain ⟨whole, filled, refused⟩ := Command.refused_of_ofLine?_eq_some named
  have piece : Text.trim line ∈ Text.pieces line := by
    rw [Text.pieces_of_not_mem_trim whole, filled]
    exact List.mem_singleton.mpr rfl
  obtain ⟨before, accepts⟩ := all.exists_accepts (List.mem_flatMap.mpr ⟨line, inside, piece⟩)
  exact not_accepts_of_scan_eq_error refused limit before accepts

end Session

/-! ## Both -/

namespace CommandLine

open Reading

/-- A check has no errors at its end if it found none and no tokens wait. -/
theorem Check.allErrors_eq_nil_iff (check : Check) :
    check.allErrors = [] ↔ check.errors = [] ∧ check.pending = [] := by
  simp [allErrors]

/-- Checking and running agree on syntax: both return, a text that checks without errors is run
without a report of one, and a text without commands that is run with success and leaves no tokens
checks without errors. -/
theorem check_agrees_with_run (text : String) (batch : Bool) (limits : Limits) :
    ∃ checked success session, check limits.reading text = .ok () checked ∧
      Session.submitText text { Session.start batch with limits } = .ok success session ∧
      (checked.allErrors = [] →
        (∀ traces, ∀ line ∈ Event.lines traces session.events.toList,
          ¬ Event.ReportsParseError line) ∧
        (success = true → session.isPending = false)) ∧
      ((∀ line ∈ Text.lines text, Session.Command.ofLine? (Text.trim line) = none) →
        success = true → session.isPending = false → checked.allErrors = []) := by
  have unpadded : ∀ piece ∈ (Text.lines text).flatMap Text.pieces,
      Text.Unpadded piece.toList := by
    intro piece inside
    obtain ⟨line, -, within⟩ := List.mem_flatMap.mp inside
    exact Text.unpadded_of_mem_pieces within
  obtain ⟨checked, found, checkEnded, pending, errors, none⟩ :=
    exists_checkEach limits.reading unpadded {} Buffer.lexed_nil
  obtain ⟨success, session, runEnded, -, -⟩ :=
    Session.returns_submitText text { Session.start batch with limits }
      (Session.sound_start batch limits)
  rw [List.append_nil] at errors
  rw [← errors] at none
  refine ⟨checked, success, session, checkEnded, runEnded, ?_⟩
  rw [Check.allErrors_eq_nil_iff, Session.isPending_eq_false_iff]
  constructor
  · rintro ⟨clean, empty⟩
    have all := none.mp clean
    -- A command would have been an error of the check, so the run takes the same pieces.
    rw [Session.submitText_eq (Session.ofLine?_eq_none_of_acceptsAll all)] at runEnded
    obtain ⟨accepts, quiet⟩ := Session.allOf_submitExpr_eq_ok runEnded
    constructor
    · intro traces line
      refine Event.not_reportsParseError_of_mem_lines fun event inside => ?_
      exact quiet all nofun event (Array.mem_toList_iff.mp inside)
    · intro succeeded
      exact (accepts succeeded).2.trans (pending.symm.trans empty)
  · intro plain succeeded empty
    rw [Session.submitText_eq plain] at runEnded
    obtain ⟨all, waiting⟩ := (Session.allOf_submitExpr_eq_ok runEnded).1 succeeded
    exact ⟨none.mpr all, pending.trans (waiting.symm.trans empty)⟩

/-- A definition over two lines has no errors. -/
example : (reportCheck false "def f begin\n true end; true").out =
    "OK: no syntax errors found.\n" := by
  decide +kernel

end CommandLine

end PrefixCalc
