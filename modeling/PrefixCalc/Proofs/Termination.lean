import PrefixCalc.Proofs.Budget
import PrefixCalc.Proofs.Parts
import PrefixCalc.Proofs.Reached

/-!
# Evaluation comes to an end

Where no function defines functions, some budget is enough for every evaluation.
The expression is finite, so it is enough that the bodies it calls come to an end
(`Discipline.tractable`). While a body runs the table stays as it is, and since
its calls have no cycle they can be followed only finitely often
(`settles_body`). Arguments may redefine functions before the body runs, but
the table that they leave has no cycle either.
-/

namespace PrefixCalc

namespace Eval

variable {α : Type} {good : Expr → Prop} {keep : Run → Prop}

/-- A plain fault is no spent budget. -/
theorem settled_ofExcept {outcome : Except Fault α} {run : Run}
    (plain : ∀ fault, outcome = .error fault → fault.isPlain = true) :
    Settled .tooDeep (ofExcept outcome run) := by
  cases outcome with
  | ok value => trivial
  | error fault =>
    rintro rfl
    cases plain .tooDeep rfl

/-- Defining a variable spends no budget. -/
theorem settled_define (name : String) (value : Value) (run : Run) :
    Settled .tooDeep (define name value run) := by
  rw [define_apply]
  split
  · exact nofun
  · trivial

/-- Changing a variable spends no budget. -/
theorem settled_assign (name : String) (value : Value) (run : Run) :
    Settled .tooDeep (assign name value run) := by
  rw [assign_apply]
  split
  · trivial
  · exact nofun

/-- Installing a function spends no budget. -/
theorem settled_install (name : String) (function : Function) (run : Run) :
    Settled .tooDeep (install name function run) := by
  rw [install_apply]
  split
  · intro same
    cases same
  · trivial

/-- A frame of its own answers if its body does. -/
theorem settles_inFrame {body : Nat → Eval α} {locals : Variables} {run : Run}
    (settles : Settles .tooDeep body (run.withLocals locals)) :
    Settles .tooDeep (fun budget => inFrame locals (body budget)) run := by
  obtain ⟨budget, settled⟩ := settles
  exact ⟨budget, ends_inFrame settled⟩

/-- Whether evaluations of an expression keep a property and answer wherever it holds. -/
structure Tractable (keep : Run → Prop) (code : Expr) : Prop where
  /-- The property is kept. -/
  keeps : ∀ budget, Keeps keep (fun _ => True) (expr budget code)
  /-- Some budget is enough. -/
  settles : ∀ {run}, keep run → Settles .tooDeep (fun budget => expr budget code) run

/-- What follows a tractable expression may rely on the property. -/
theorem Tractable.bind {part : Expr} {next : Value → Nat → Eval α} {run : Run}
    (tractable : Tractable keep part) (grows : ∀ value, Grows .tooDeep (next value))
    (kept : keep run)
    (settles : ∀ value {after}, keep after → Settles .tooDeep (next value) after) :
    Settles .tooDeep (fun budget => expr budget part >>= fun value => next value budget) run :=
  Settles.bind (grows_expr part) grows (tractable.settles kept) fun budget value _ ended =>
    settles value ((tractable.keeps budget).of_ok kept ended)

/-- Arguments answer if each of them does. -/
theorem settles_each {arguments : List Expr} {run : Run}
    (tractable : ∀ code ∈ arguments, Tractable keep code) (kept : keep run) :
    Settles .tooDeep (fun budget => each (expr budget) arguments) run := by
  induction arguments generalizing run with
  | nil => exact ⟨0, trivial⟩
  | cons first rest ih =>
    have tail := fun code inside => tractable code (List.mem_cons_of_mem first inside)
    have collect (value : Value) (values : List Value) :
        Grows .tooDeep fun _ => (pure (value :: values) : Eval (List Value)) := Grows.const _
    refine (tractable first List.mem_cons_self).bind
      (fun value => (grows_each rest).bind (collect value)) kept fun value middle still => ?_
    exact Settles.bind (grows_each rest) (collect value) (ih tail still)
      fun _ _ _ _ => settles_of_settled trivial

/-- A body answers if each of its expressions does. -/
theorem settles_sequence {body : List Expr} {run : Run}
    (tractable : ∀ code ∈ body, Tractable keep code) (soFar : Value) (kept : keep run) :
    Settles .tooDeep (fun budget => sequence (expr budget) soFar body) run := by
  induction body generalizing soFar run with
  | nil => exact ⟨0, trivial⟩
  | cons first rest ih =>
    have tail := fun code inside => tractable code (List.mem_cons_of_mem first inside)
    exact (tractable first List.mem_cons_self).bind (fun value => grows_sequence value rest) kept
      fun value _ still => ih tail value still

/-- A call answers if its arguments do and the body that it runs does, in every state that the
arguments may leave. -/
theorem settles_call {name : String} {arguments : List Expr} {run : Run}
    (tractable : ∀ code ∈ arguments, Tractable keep code) (kept : keep run)
    (body : ∀ {function}, run.environment.functions.find? name = some function →
      ∀ {locals after}, keep after →
        Settles .tooDeep (fun budget => inFrame locals
          (sequence (expr budget) (.number 0) function.body)) after) :
    Settles .tooDeep (fun budget => form (expr budget) (.call name arguments)) run := by
  unfold Settles
  simp only [form_call_apply]
  cases found : run.environment.functions.find? name with
  | none => exact ⟨0, nofun⟩
  | some function =>
    change Settles .tooDeep (fun budget => invoke (expr budget) function arguments) run
    unfold invoke
    split
    · exact ⟨0, nofun⟩
    · refine Settles.bind (grows_each arguments) (fun values => Grows.bind (Grows.const _)
        fun locals _ _ enough => extends_inFrame locals (grows_sequence _ _ enough))
        (settles_each tractable kept) fun budget values middle ended => ?_
      have still := (keeps_each fun code inside => (tractable code inside).keeps budget).of_ok
        kept ended
      refine Settles.bind (Grows.const _)
        (fun locals _ _ enough => extends_inFrame locals (grows_sequence _ _ enough))
        (settles_of_settled (settled_ofExcept fun _ => Variables.isPlain_of_defineAll)) ?_
      intro _ locals after bound
      exact body found ((keeps_ofExcept fun _ _ => trivial).of_ok still bound)

/-- Whether the bodies behind the calls of an expression answer, wherever a property holds when the
function is found and when the body starts. -/
def BodiesSettle (keep : Run → Prop) (code : Expr) : Prop :=
  ∀ {name}, code.MayCall name → ∀ {run function}, keep run →
    run.environment.functions.find? name = some function → ∀ {locals after}, keep after →
      Settles .tooDeep (fun budget => inFrame locals
        (sequence (expr budget) (.number 0) function.body)) after

/-- An expression answers if its parts and the bodies that it calls do. -/
theorem settles_form {code : Expr} {run : Run} (kept : keep run)
    (parts : ∀ part ∈ code.parts, Tractable keep part) (bodies : BodiesSettle keep code) :
    Settles .tooDeep (fun budget => form (expr budget) code) run := by
  cases code with
  | literal value => exact ⟨0, trivial⟩
  | get name => exact ⟨0, settled_ofExcept fun _ => Variables.isPlain_of_get⟩
  | define name value =>
    exact (parts value (by simp [Expr.parts])).bind (fun result => Grows.const (define name result))
      kept fun result after _ => settles_of_settled (settled_define name result after)
  | assign name value =>
    exact (parts value (by simp [Expr.parts])).bind (fun result => Grows.const (assign name result))
      kept fun result after _ => settles_of_settled (settled_assign name result after)
  | binary operator left right =>
    have apply (first second : Value) :
        Grows .tooDeep fun _ => ofExcept (operator.apply first second) := Grows.const _
    refine (parts left (by simp [Expr.parts])).bind
      (fun first => (grows_expr right).bind (apply first)) kept fun first middle still => ?_
    exact (parts right (by simp [Expr.parts])).bind (apply first) still fun second _ _ =>
      settles_of_settled (settled_ofExcept fun _ => BinaryRule.isPlain_of_apply)
  | unary operator operand =>
    exact (parts operand (by simp [Expr.parts])).bind
      (fun value => Grows.const (ofExcept (operator.apply value))) kept fun _ _ _ =>
        settles_of_settled (settled_ofExcept fun _ => UnaryRule.isPlain_of_apply)
  | choose condition whenTrue whenFalse =>
    have branch (decision : Bool) : Grows .tooDeep fun budget =>
        if decision = true then expr budget whenTrue else expr budget whenFalse := by
      cases decision with
      | true => exact grows_expr whenTrue
      | false => exact grows_expr whenFalse
    refine (parts condition (by simp [Expr.parts])).bind
      (fun value => Grows.bind (Grows.const (ofExcept value.toBoolean)) branch) kept
      fun value middle still => ?_
    refine Settles.bind (Grows.const _) branch
      (settles_of_settled (settled_ofExcept fun _ => Value.isPlain_of_toBoolean)) ?_
    intro _ decision after decided
    have again := (keeps_ofExcept fun _ _ => trivial).of_ok still decided
    cases decision with
    | true => exact (parts whenTrue (by simp [Expr.parts])).settles again
    | false => exact (parts whenFalse (by simp [Expr.parts])).settles again
  | print value =>
    exact (parts value (by simp [Expr.parts])).bind
      (fun result => Grows.const (do emit (.printed result); return result)) kept
      fun _ _ _ => settles_of_settled trivial
  | function name parameters body => exact ⟨0, settled_install name _ run⟩
  | call name arguments =>
    exact settles_call parts kept fun found => bodies (.here name arguments) kept found
  | gap gap => exact ⟨0, Fault.noConfusion⟩

/-- A good expression is tractable if the bodies that it calls answer. -/
theorem Discipline.tractable (discipline : Discipline good keep fun _ => True)
    {code : Expr} (fine : good code) (bodies : BodiesSettle keep code) : Tractable keep code := by
  induction code using Expr.byParts with
  | step code ih =>
    refine ⟨fun budget => discipline.keeps_expr budget fine, fun {run} kept => ?_⟩
    have parts : ∀ part ∈ code.parts, Tractable keep part := fun part inside =>
      ih part inside (discipline.part fine inside) fun may => bodies (.inside inside may)
    obtain ⟨budget, settled⟩ := settles_form kept parts bodies
    exact ⟨budget + 1, settled⟩

end Eval

/-! ## Functions that define none -/

/-- Whether functions call each other without cycles and define no functions themselves. -/
structure Functions.Tame (functions : Functions) : Prop where
  /-- There is no cycle of calls. -/
  acyclic : functions.Acyclic
  /-- Bodies define nothing. -/
  bodies : ∀ {name function code}, functions.find? name = some function → code ∈ function.body →
    code.definesNothing = true

/-- There is nothing untamed in the empty table. -/
theorem Functions.tame_empty : Functions.Tame ∅ :=
  ⟨acyclic_empty, nofun⟩

/-- A function that is not refused and defines none may join. -/
theorem Functions.Tame.insert {functions : Functions} {name : String} {function : Function}
    (tame : functions.Tame) (accepted : functions.recursion? name function = none)
    (nothing : ∀ code ∈ function.body, code.definesNothing = true) :
    Tame (functions.insert name function) where
  acyclic := tame.acyclic.insert accepted
  bodies := forall_mem_body_insert tame.bodies nothing

namespace Eval

/-- What defines nothing leaves tame functions as they are. -/
theorem frozen_discipline {functions : Functions} (tame : functions.Tame) :
    Discipline (fun code => code.definesNothing = true)
      (fun run => run.environment.functions = functions) fun _ => True := by
  refine .ofFunctions (· = functions) Expr.definesNothing_part (fun same found inside => ?_)
    (fun _ nothing _ => by cases nothing) fun _ => trivial
  subst same
  exact tame.bodies found inside

/-- Expressions without nested definitions leave tame functions tame. -/
theorem tame_discipline :
    Discipline (fun code => code.isFlat = true) (fun run => run.environment.functions.Tame)
      fun _ => True :=
  .ofFunctions Functions.Tame Expr.isFlat_part
    (fun tame found inside => Expr.isFlat_of_definesNothing (tame.bodies found inside))
    (fun tame flat accepted => tame.insert accepted fun _ inside =>
      Expr.definesNothing_of_mem_body flat inside)
    fun _ => trivial

/-- The bodies of tame functions answer. -/
theorem settles_body {functions : Functions} (tame : functions.Tame) {name : String}
    {function : Function} (found : functions.find? name = some function) (soFar : Value) {run : Run}
    (same : run.environment.functions = functions) :
    Settles .tooDeep (fun budget => sequence (expr budget) soFar function.body) run := by
  induction name using tame.acyclic.wellFounded.induction generalizing function soFar run with
  | _ name ih =>
    have tractable : ∀ code ∈ function.body,
        Tractable (fun run => run.environment.functions = functions) code := by
      intro code inside
      refine (frozen_discipline tame).tractable (tame.bodies found inside) ?_
      intro callee may before other earlier isFound locals after later
      have called : functions.Calls name callee := by
        unfold Functions.Calls Functions.callees
        rw [found]
        exact Expr.mem_calls.mpr ⟨code, inside, may⟩
      exact settles_inFrame (ih callee called (earlier ▸ isFound) _ later)
    exact settles_sequence tractable soFar same

/-- What defines nothing answers where the functions are tame, whichever it calls. -/
theorem tractable_of_definesNothing {functions : Functions} (tame : functions.Tame) {code : Expr}
    (nothing : code.definesNothing = true) :
    Tractable (fun run => run.environment.functions = functions) code := by
  refine (frozen_discipline tame).tractable nothing ?_
  intro name _ before function earlier found locals after later
  exact settles_inFrame (settles_body tame (earlier ▸ found) _ later)

/-- What has no nested definitions answers where the functions are tame. A body that was found
before the arguments redefined functions runs in the table that they leave. -/
theorem tractable_of_isFlat {code : Expr} (flat : code.isFlat = true) :
    Tractable (fun run => run.environment.functions.Tame) code := by
  refine tame_discipline.tractable flat ?_
  intro name _ before function earlier found locals after later
  have tractable : ∀ code ∈ function.body,
      Tractable (fun run => run.environment.functions = after.environment.functions) code :=
    fun code inside => tractable_of_definesNothing later (earlier.bodies found inside)
  exact settles_inFrame (settles_sequence tractable _ rfl)

/-- Where no definitions are nested, in what was evaluated before or in the expression itself, some
budget is enough for its evaluation, and so is every larger one. -/
theorem exists_sufficient_budget {run : Run} {code : Expr}
    (reached : Functions.Reached (fun earlier => earlier.isFlat = true) run.environment.functions)
    (flat : code.isFlat = true) :
    ∃ depth, ∀ budget, depth ≤ budget → ∀ after, expr budget code run ≠ .error .tooDeep after := by
  have tame := reached.holds tame_discipline Functions.tame_empty
  obtain ⟨depth, enough⟩ :=
    (grows_expr code).exists_settled ((tractable_of_isFlat flat).settles tame)
  refine ⟨depth, fun budget larger after spent => ?_⟩
  have settled := enough budget larger
  rw [spent] at settled
  exact settled rfl

/-- A call whose argument defines the function that the body calls comes to an end. -/
theorem exists_sufficient_budget_redefinition :
    let caller := Expr.function "f" ["x"] [.call "g" []]
    let before := stateAfter (expr 1 caller) {}
    let code := Expr.call "f" [.function "g" [] [.literal (.boolean true)]]
    caller.isFlat = true ∧ code.isFlat = true ∧
      ∃ depth, ∀ budget, depth ≤ budget →
        ∀ after, expr budget code before ≠ .error .tooDeep after :=
  ⟨by decide, by decide,
    exists_sufficient_budget (.evaluate 1 _ {} (by decide) .empty) (by decide)⟩

end Eval

end PrefixCalc
