import PrefixCalc.Eval
import PrefixCalc.Proofs.Outcome

/-!
# What evaluations keep

An evaluation changes its run in few ways: it defines and changes variables of the
current frame, installs functions, notes events, and works in frames of its own.
A `Discipline` says of a property of runs that each of these keeps it, as far as
the expressions satisfy a condition that is handed down to their parts and to the
bodies they call. `Discipline.keeps_expr` is the induction: the whole evaluation
keeps the property then, whether it ends in a value or in a fault and whatever its
budget is.
-/

namespace PrefixCalc

/-- Whether a fault is neither a gap, a refused recursion nor a spent budget. -/
def Fault.isPlain : Fault → Bool
  | .gap _ | .recursive _ | .tooDeep => false
  | _ => true

/-- The faults of binary operators are plain. -/
theorem BinaryRule.isPlain_of_apply {rule : BinaryRule} {left right : Value} {fault : Fault}
    (failed : rule.apply left right = .error fault) : fault.isPlain = true := by
  cases rule <;> cases left <;> cases right <;> cases failed <;> rfl

/-- The faults of unary operators are plain. -/
theorem UnaryRule.isPlain_of_apply {rule : UnaryRule} {operand : Value} {fault : Fault}
    (failed : rule.apply operand = .error fault) : fault.isPlain = true := by
  cases rule <;> cases operand <;> cases failed <;> rfl

/-- The fault of a value that is no boolean is plain. -/
theorem Value.isPlain_of_toBoolean {value : Value} {fault : Fault}
    (failed : value.toBoolean = .error fault) : fault.isPlain = true := by
  cases value <;> cases failed
  rfl

/-- The fault of an unknown variable is plain. -/
theorem Variables.isPlain_of_get {locals : Variables} {name : String} {fault : Fault}
    (failed : locals.get name = .error fault) : fault.isPlain = true := by
  unfold get at failed
  split at failed <;> cases failed
  rfl

/-- The fault of a variable that is defined twice is plain. -/
theorem Variables.isPlain_of_defineAll {locals : Variables} {bindings : List (String × Value)}
    {fault : Fault} (failed : locals.defineAll bindings = .error fault) :
    fault.isPlain = true := by
  induction bindings generalizing locals with
  | nil => cases failed
  | cons binding rest ih =>
    unfold defineAll define at failed
    split at failed
    · cases failed
      rfl
    · exact ih failed

/-- What holds of all bodies holds of them after a function is installed if it holds of its body. -/
theorem Functions.forall_mem_body_insert {good : Expr → Prop} {functions : Functions}
    {name : String} {function : Function}
    (bodies : ∀ {other found code}, functions.find? other = some found → code ∈ found.body →
      good code)
    (fine : ∀ code ∈ function.body, good code) {other : String} {found : Function} {code : Expr}
    (isFound : (functions.insert name function).find? other = some found)
    (inside : code ∈ found.body) : good code := by
  rw [Table.find?_insert] at isFound
  split at isFound
  · obtain rfl := Option.some.inj isFound
    exact fine code inside
  · exact bodies isFound inside

namespace Run

/-- What holds of the events so far and of one more holds of all. -/
theorem forall_mem_events_note {fine : Event → Prop} {run : Run} {event : Event}
    (earlier : ∀ each ∈ run.events, fine each) (holds : fine event) :
    ∀ each ∈ (run.note event).events, fine each := by
  intro each inside
  rcases Array.mem_push.mp inside with old | rfl
  · exact earlier each old
  · exact holds

end Run

namespace Eval

variable {α β : Type}

/-! ## Single steps -/

/-- Looking at the variables hands those of the current frame on. -/
theorem locals_bind (next : Variables → Eval α) (run : Run) :
    (locals >>= next) run = next run.environment.locals run := rfl

/-- Looking at the functions hands them on. -/
theorem functions_bind (next : Functions → Eval α) (run : Run) :
    (functions >>= next) run = next run.environment.functions run := rfl

/-- Defining a variable adds it to the frame, or fails and changes nothing. -/
theorem define_apply (name : String) (value : Value) (run : Run) :
    define name value run =
      if run.environment.locals.contains name then .error (.duplicateVariable name) run
      else .ok value (run.withLocals (run.environment.locals.insert name value)) := by
  unfold define Variables.define
  rw [locals_bind]
  split <;> rfl

/-- Changing a variable replaces its value, or fails and changes nothing. -/
theorem assign_apply (name : String) (value : Value) (run : Run) :
    assign name value run =
      if run.environment.locals.contains name then
        .ok value (run.withLocals (run.environment.locals.insert name value))
      else .error (.unknownVariable name) run := by
  unfold assign Variables.assign
  rw [locals_bind]
  split <;> rfl

/-- Installing a function puts it into the table, or fails and leaves the table as it is. -/
theorem install_apply (name : String) (function : Function) (run : Run) :
    install name function run =
      match run.environment.functions.recursion? name function with
      | some recursion => .error (.recursive recursion) (run.note (.trace (.rejected recursion)))
      | none => .ok (.boolean true)
          ((run.withFunctions (run.environment.functions.insert name function)).note
            (.trace (.installed name function.parameters))) := by
  unfold install
  rw [functions_bind]
  cases run.environment.functions.recursion? name function <;> rfl

/-- A call goes to the function that the table has when the call starts. -/
theorem form_call_apply (inner : Expr → Eval Value) (name : String) (arguments : List Expr)
    (run : Run) :
    form inner (.call name arguments) run =
      match run.environment.functions.find? name with
      | none => .error (.unknownFunction name) run
      | some function => invoke inner function arguments run := by
  change (functions >>= fun functions => ofExcept (functions.get name) >>= fun function =>
    invoke inner function arguments) run = _
  rw [functions_bind]
  unfold Functions.get
  cases run.environment.functions.find? name <;> rfl

/-- A frame of its own ends as its body does, back in the variables of the current frame. -/
theorem ends_inFrame {value : α → Run → Prop} {failure : Fault → Run → Prop} {locals : Variables}
    {body : Eval α} {run : Run}
    (ends : Ends (fun result after => value result (after.withLocals run.environment.locals))
      (fun fault after => failure fault (after.withLocals run.environment.locals))
      (body (run.withLocals locals))) :
    Ends value failure (inFrame locals body run) := by
  rw [inFrame_apply]
  cases outcome : body (run.withLocals locals) with
  | ok result after =>
    rw [outcome] at ends
    exact ends
  | error fault after =>
    rw [outcome] at ends
    exact ends

/-! ## Whole evaluations -/

section

variable {keep : Run → Prop} {excused : Fault → Prop}

/-- An outcome whose fault is excused changes nothing. -/
theorem keeps_ofExcept {outcome : Except Fault α}
    (fine : ∀ fault, outcome = .error fault → excused fault) :
    Keeps keep excused (ofExcept outcome) := by
  cases outcome with
  | ok value => exact .pure value
  | error fault => exact .throw (fine fault rfl)

/-- What keeps a property for each argument keeps it for all of them. -/
theorem keeps_each {inner : Expr → Eval Value} {arguments : List Expr}
    (keeps : ∀ code ∈ arguments, Keeps keep excused (inner code)) :
    Keeps keep excused (each inner arguments) := by
  induction arguments with
  | nil => exact .pure []
  | cons first rest ih =>
    refine .bind (keeps first List.mem_cons_self) fun value => ?_
    exact .bind (ih fun code inside => keeps code (List.mem_cons_of_mem first inside))
      fun values => .pure (value :: values)

/-- What keeps a property for each expression of a body keeps it for the body. -/
theorem keeps_sequence {inner : Expr → Eval Value} {body : List Expr} (soFar : Value)
    (keeps : ∀ code ∈ body, Keeps keep excused (inner code)) :
    Keeps keep excused (sequence inner soFar body) := by
  induction body generalizing soFar with
  | nil => exact .pure soFar
  | cons first rest ih =>
    refine .bind (keeps first List.mem_cons_self) fun value => ?_
    exact ih value fun code inside => keeps code (List.mem_cons_of_mem first inside)

end

/-- A property of runs that evaluations keep, as far as their expressions are `good` and their
faults `excused`. -/
structure Discipline (good : Expr → Prop) (keep : Run → Prop) (excused : Fault → Prop) : Prop where
  /-- The parts of good expressions are good. -/
  part : ∀ {code part}, good code → part ∈ code.parts → good part
  /-- Good definitions of variables keep the property. -/
  define : ∀ {name code} value, good (.define name code) →
    Keeps keep excused (Eval.define name value)
  /-- Good changes of variables keep the property. -/
  assign : ∀ {name code} value, good (.assign name code) →
    Keeps keep excused (Eval.assign name value)
  /-- Printing keeps the property. -/
  print : ∀ value, Keeps keep excused (emit (.printed value))
  /-- Good definitions of functions keep the property. -/
  install : ∀ {name parameters body}, good (.function name parameters body) →
    Keeps keep excused (Eval.install name ⟨parameters, body⟩)
  /-- Bodies that good calls run in frames of their own keep the property, if what is good does. -/
  frame : ∀ {name arguments function run inner} locals, good (.call name arguments) → keep run →
    run.environment.functions.find? name = some function →
    (∀ code, good code → Keeps keep excused (inner code)) →
    Keeps keep excused (inFrame locals (sequence inner (.number 0) function.body))
  /-- Every fault is excused but for gaps that are not good. -/
  fault : ∀ {fault}, (∀ gap, fault = .gap gap → good (.gap gap)) → excused fault

namespace Discipline

variable {good : Expr → Prop} {keep : Run → Prop} {excused : Fault → Prop}

/-- Plain faults are excused. -/
theorem plain (discipline : Discipline good keep excused) {fault : Fault}
    (isPlain : fault.isPlain = true) : excused fault := by
  refine discipline.fault fun gap same => ?_
  rw [same] at isPlain
  cases isPlain

/-- A good call keeps the property. -/
theorem keeps_call (discipline : Discipline good keep excused) {inner : Expr → Eval Value}
    (keeps : ∀ code, good code → Keeps keep excused (inner code)) {name : String}
    {arguments : List Expr} (fine : good (.call name arguments)) :
    Keeps keep excused (form inner (.call name arguments)) := by
  intro run kept
  rw [form_call_apply]
  cases found : run.environment.functions.find? name with
  | none => exact ⟨kept, discipline.plain rfl⟩
  | some function =>
    simp only [invoke]
    split
    · exact ⟨kept, discipline.plain rfl⟩
    · refine Keeps.bind (keeps_each fun code inside => keeps code (discipline.part fine inside))
        (fun values => Keeps.bind (keeps_ofExcept fun fault failed => ?_) fun locals => ?_) run kept
      · exact discipline.plain (Variables.isPlain_of_defineAll failed)
      · exact discipline.frame locals fine kept found keeps

/-- A good expression keeps the property if what is evaluated inside it does. -/
theorem keeps_form (discipline : Discipline good keep excused) {inner : Expr → Eval Value}
    (keeps : ∀ code, good code → Keeps keep excused (inner code)) {code : Expr}
    (fine : good code) : Keeps keep excused (form inner code) := by
  have inside : ∀ part ∈ code.parts, Keeps keep excused (inner part) :=
    fun part within => keeps part (discipline.part fine within)
  cases code with
  | literal value => exact Keeps.pure value
  | get name =>
    intro run kept
    exact keeps_ofExcept (fun fault failed => discipline.plain (Variables.isPlain_of_get failed))
      run kept
  | define name value =>
    exact Keeps.bind (inside value (by simp [Expr.parts])) fun result =>
      discipline.define result fine
  | assign name value =>
    exact Keeps.bind (inside value (by simp [Expr.parts])) fun result =>
      discipline.assign result fine
  | binary operator left right =>
    refine Keeps.bind (inside left (by simp [Expr.parts])) fun first => ?_
    refine Keeps.bind (inside right (by simp [Expr.parts])) fun second => ?_
    exact keeps_ofExcept fun fault failed => discipline.plain (BinaryRule.isPlain_of_apply failed)
  | unary operator operand =>
    refine Keeps.bind (inside operand (by simp [Expr.parts])) fun value => ?_
    exact keeps_ofExcept fun fault failed => discipline.plain (UnaryRule.isPlain_of_apply failed)
  | choose condition whenTrue whenFalse =>
    refine Keeps.bind (inside condition (by simp [Expr.parts])) fun value => ?_
    refine Keeps.bind (keeps_ofExcept fun fault failed => ?_) fun decision => ?_
    · exact discipline.plain (Value.isPlain_of_toBoolean failed)
    · cases decision with
      | true => exact inside whenTrue (by simp [Expr.parts])
      | false => exact inside whenFalse (by simp [Expr.parts])
  | print value =>
    refine Keeps.bind (inside value (by simp [Expr.parts])) fun result => ?_
    exact Keeps.bind (discipline.print result) fun _ => Keeps.pure result
  | function name parameters body => exact discipline.install fine
  | call name arguments => exact discipline.keeps_call keeps fine
  | gap gap => exact Keeps.throw (discipline.fault fun other same => by cases same; exact fine)

/-- The evaluation of a good expression keeps the property, whatever its budget. -/
theorem keeps_expr (discipline : Discipline good keep excused) (budget : Nat) {code : Expr}
    (fine : good code) : Keeps keep excused (expr budget code) := by
  induction budget generalizing code with
  | zero => exact Keeps.throw (discipline.fault nofun)
  | succ budget ih => exact discipline.keeps_form (fun _ => ih) fine

/-- What evaluations keep holds after each of them, whatever it ends in. -/
theorem holds_after (discipline : Discipline good keep excused) (budget : Nat) {code : Expr}
    (fine : good code) {run : Run} (kept : keep run) : keep (stateAfter (expr budget code) run) := by
  have ends := discipline.keeps_expr budget fine run kept
  exact (ends.mono (fun _ _ kept => kept) fun _ _ kept => kept.1).holds_after

/-- A property of functions is kept by evaluations if it makes the bodies good and installing good
functions that are not refused keeps it. -/
theorem ofFunctions (keep : Functions → Prop)
    (part : ∀ {code part}, good code → part ∈ code.parts → good part)
    (body : ∀ {functions name function code}, keep functions →
      functions.find? name = some function → code ∈ function.body → good code)
    (install : ∀ {functions name parameters body}, keep functions →
      good (.function name parameters body) → functions.recursion? name ⟨parameters, body⟩ = none →
      keep (functions.insert name ⟨parameters, body⟩))
    (fault : ∀ {fault}, (∀ gap, fault = .gap gap → good (.gap gap)) → excused fault) :
    Discipline good (fun run => keep run.environment.functions) excused where
  part := part
  define {name code} value _ := by
    intro run kept
    rw [define_apply]
    split
    · exact ⟨kept, fault nofun⟩
    · exact kept
  assign {name code} value _ := by
    intro run kept
    rw [assign_apply]
    split
    · exact kept
    · exact ⟨kept, fault nofun⟩
  print value _ kept := kept
  install {name parameters body} fine := by
    intro run kept
    rw [install_apply]
    split
    · exact ⟨kept, fault nofun⟩
    · rename_i accepted
      exact install kept fine accepted
  frame {name arguments function earlier inner} locals fine kept found keeps := by
    intro run still
    exact ends_inFrame (keeps_sequence (.number 0) (fun code inside =>
      keeps code (body kept found inside)) (run.withLocals locals) still)
  fault := fault

/-- A property of the variables of a frame is kept by evaluations if defining and changing variables
keeps it; what is done in other frames is of no concern. -/
theorem ofLocals (keep : Variables → Prop)
    (part : ∀ {code part}, good code → part ∈ code.parts → good part)
    (define : ∀ {locals name code} value, keep locals → good (.define name code) →
      locals.contains name = false → keep (locals.insert name value))
    (assign : ∀ {locals name code} value, keep locals → good (.assign name code) →
      locals.contains name = true → keep (locals.insert name value)) :
    Discipline good (fun run => keep run.environment.locals) (fun _ => True) where
  part := part
  define {name code} value fine := by
    intro run kept
    rw [define_apply]
    split
    · exact ⟨kept, trivial⟩
    · rename_i missing
      exact define value kept fine (by simpa using missing)
  assign {name code} value fine := by
    intro run kept
    rw [assign_apply]
    split
    · rename_i present
      exact assign value kept fine present
    · exact ⟨kept, trivial⟩
  print value _ kept := kept
  install {name parameters body} _ := by
    intro run kept
    rw [install_apply]
    split
    · exact ⟨kept, trivial⟩
    · exact kept
  frame {name arguments function earlier inner} locals _ _ _ _ := by
    intro run kept
    refine ends_inFrame ?_
    cases sequence inner (.number 0) function.body (run.withLocals locals) with
    | ok value after => exact kept
    | error fault after => exact ⟨kept, trivial⟩
  fault _ := trivial

/-- A property holds of all events that evaluations note if it holds of what is printed and of
traces. -/
theorem ofEvents (fine : Event → Prop) (printed : ∀ value, fine (.printed value))
    (traced : ∀ trace, fine (.trace trace)) :
    Discipline (fun _ => True) (fun run => ∀ event ∈ run.events, fine event) (fun _ => True) where
  part _ _ := trivial
  define {name code} value _ := by
    intro run kept
    rw [define_apply]
    split
    · exact ⟨kept, trivial⟩
    · exact kept
  assign {name code} value _ := by
    intro run kept
    rw [assign_apply]
    split
    · exact kept
    · exact ⟨kept, trivial⟩
  print value _ kept := Run.forall_mem_events_note kept (printed value)
  install {name parameters body} _ := by
    intro run kept
    rw [install_apply]
    split
    · exact ⟨Run.forall_mem_events_note kept (traced _), trivial⟩
    · exact Run.forall_mem_events_note kept (traced _)
  frame {name arguments function earlier inner} locals _ _ _ keeps := by
    intro run kept
    exact ends_inFrame (keeps_sequence (.number 0) (fun code _ => keeps code trivial)
      (run.withLocals locals) kept)
  fault _ := trivial

end Discipline

end Eval

end PrefixCalc
