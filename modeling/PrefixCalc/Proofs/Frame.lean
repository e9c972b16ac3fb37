import Mathlib.Logic.Relation
import PrefixCalc.Proofs.Evaluation

/-!
# The frame of an evaluation

An evaluation reaches the variables of its own frame only. What it adds is named by
the definitions in its expression and what it changes by the assignments in it
(`Expr.AccountsFor`); the bodies of the functions that it calls or defines are not
looked at, since they have frames of their own. A caller finds its variables as the
arguments left them, however the call ends (`Eval.locals_call`).
-/

namespace PrefixCalc

/-! ## Changes and what accounts for them -/

/-- Whether an expression is evaluated with another one: it is that one or, again and again, a part.
The bodies of definitions are not among the parts. -/
def Expr.HasNode : Expr → Expr → Prop :=
  Relation.ReflTransGen fun whole part => part ∈ whole.parts

/-- Whether the definitions and assignments in an expression account for the differences between the
variables of a frame before and after. -/
structure Expr.AccountsFor (code : Expr) (before after : Variables) : Prop where
  /-- The names stay in their order, and names that are defined are added at the end. -/
  added : ∃ names, after.names = before.names ++ names ∧
    ∀ name ∈ names, name ∉ before.names ∧ ∃ value, code.HasNode (.define name value)
  /-- Of the earlier variables only those that are assigned have another value. -/
  changed : ∀ name ∈ before.names, after.find? name ≠ before.find? name →
    ∃ value, code.HasNode (.assign name value)

namespace Expr.AccountsFor

variable {code inner : Expr} {before locals : Variables} {name : String}

/-- No differences need no account. -/
theorem refl (code : Expr) (locals : Variables) : code.AccountsFor locals locals where
  added := ⟨[], by simp⟩
  changed _ _ differs := absurd rfl differs

/-- A definition in the expression accounts for one more variable. -/
theorem define (accounts : code.AccountsFor before locals)
    (node : code.HasNode (.define name inner)) (missing : locals.contains name = false)
    (value : Value) : code.AccountsFor before (locals.insert name value) := by
  obtain ⟨names, grown, defined⟩ := accounts.added
  have fresh : name ∉ locals.names := by
    rw [← Table.contains_iff, missing]
    exact Bool.false_ne_true
  have earlier : ∀ other ∈ before.names, other ≠ name := by
    rintro other known rfl
    apply fresh
    rw [grown]
    exact List.mem_append_left names known
  constructor
  · refine ⟨names ++ [name], ?_, ?_⟩
    · rw [Table.names_insert, if_neg fresh, grown, List.append_assoc]
    · intro other listed
      rcases List.mem_append.mp listed with old | new
      · exact defined other old
      · rw [List.mem_singleton.mp new]
        exact ⟨fun known => earlier name known rfl, inner, node⟩
  · intro other known differs
    rw [Table.find?_insert, if_neg (earlier other known)] at differs
    exact accounts.changed other known differs

/-- An assignment in the expression accounts for another value. -/
theorem assign (accounts : code.AccountsFor before locals)
    (node : code.HasNode (.assign name inner)) (present : locals.contains name = true)
    (value : Value) : code.AccountsFor before (locals.insert name value) := by
  have known : name ∈ locals.names := (Table.contains_iff locals name).mp present
  constructor
  · rw [Table.names_insert, if_pos known]
    exact accounts.added
  · intro other known differs
    by_cases same : other = name
    · rw [same]
      exact ⟨inner, node⟩
    · rw [Table.find?_insert, if_neg same] at differs
      exact accounts.changed other known differs

end Expr.AccountsFor

namespace Eval

/-- An expression accounts for what its evaluation does to the variables of the frame. -/
theorem accounts_discipline (code : Expr) (before : Variables) :
    Discipline code.HasNode (fun run => code.AccountsFor before run.environment.locals)
      fun _ => True :=
  .ofLocals (code.AccountsFor before) (fun node inside => node.tail inside)
    (fun value accounts node missing => accounts.define node missing value)
    fun value accounts node present => accounts.assign node present value

/-- An expression accounts for what its evaluation does to the variables of the frame. -/
theorem accountsFor_expr (budget : Nat) (code : Expr) (run : Run) :
    code.AccountsFor run.environment.locals
      (stateAfter (expr budget code) run).environment.locals := by
  have discipline := accounts_discipline code run.environment.locals
  exact discipline.holds_after budget .refl (.refl code run.environment.locals)

/-- Evaluations keep the names of functions in their order and add others at the end. -/
theorem names_discipline (before : List String) :
    Discipline (fun _ => True) (fun run => before <+: run.environment.functions.names)
      fun _ => True := by
  refine .ofFunctions (fun functions => before <+: functions.names) (fun _ _ => trivial)
    (fun _ _ _ => trivial) ?_ fun _ => trivial
  intro functions name parameters body kept _ _
  rw [Table.names_insert]
  split
  · exact kept
  · exact kept.trans (List.prefix_append functions.names [name])

/-! ## Calls -/

/-- What runs in a frame of its own leaves the variables of the current frame as they are. -/
theorem locals_inFrame {α : Type} (locals : Variables) (body : Eval α) (run : Run) :
    (stateAfter (inFrame locals body) run).environment.locals = run.environment.locals := by
  unfold stateAfter
  rw [inFrame_apply]
  cases body (run.withLocals locals) <;> rfl

/-- A call leaves the variables of the caller as they are or as its arguments leave them. -/
theorem locals_call (inner : Expr → Eval Value) (name : String) (arguments : List Expr)
    (run : Run) :
    (stateAfter (form inner (.call name arguments)) run).environment.locals =
        run.environment.locals ∨
      (stateAfter (form inner (.call name arguments)) run).environment.locals =
        (stateAfter (each inner arguments) run).environment.locals := by
  have called := form_call_apply inner name arguments run
  cases found : run.environment.functions.find? name with
  | none =>
    left
    rw [found] at called
    rw [stateAfter, called]
  | some function =>
    rw [found] at called
    have same : stateAfter (form inner (.call name arguments)) run =
        stateAfter (invoke inner function arguments) run := by
      rw [stateAfter, called, stateAfter]
    rw [same, invoke]
    split
    · exact .inl rfl
    · right
      refine observe_stateAfter_bind (fun run => run.environment.locals)
        (fun values after => ?_) run
      cases bound : Variables.defineAll ∅ (function.parameters.zip values) with
      | error fault => rfl
      | ok locals => exact locals_inFrame locals _ after

/-- Whatever an evaluation ends in, the definitions and assignments in the expression account for
all that happens to the variables of its frame, and a call leaves those of the caller as they were
or as its arguments left them. -/
theorem changes_accounted_for (budget : Nat) (code : Expr) (run : Run) :
    code.AccountsFor run.environment.locals
      (stateAfter (expr budget code) run).environment.locals ∧
    run.environment.functions.names <+:
      (stateAfter (expr budget code) run).environment.functions.names ∧
    ∀ name arguments,
      (stateAfter (expr (budget + 1) (.call name arguments)) run).environment.locals =
          run.environment.locals ∨
        (stateAfter (expr (budget + 1) (.call name arguments)) run).environment.locals =
          (stateAfter (each (expr budget) arguments) run).environment.locals := by
  refine ⟨accountsFor_expr budget code run, ?_,
    fun name arguments => locals_call (expr budget) name arguments run⟩
  apply (names_discipline run.environment.functions.names).holds_after budget trivial
  exact List.prefix_rfl

/-- A function that defines a variable and then fails leaves nothing of it behind. -/
example :
    let function := Expr.function "f" [] [.define "x" (.literal (.boolean true)), .get "y"]
    let defined := stateAfter (expr 1 function) {}
    (stateAfter (expr 3 (.call "f" [])) defined).environment.locals.names = [] := by
  decide +kernel

end Eval

end PrefixCalc
