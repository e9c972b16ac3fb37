import Mathlib.Data.List.Forall2
import PrefixCalc.Proofs.Evaluation

/-!
# Evaluations side by side

Two steps go alike if, from related states, both give related results or both fail
with related errors, and leave related states. A `Likeness` says what it takes for
two evaluations: how their expressions, values, faults, functions and events are
related, and that looking variables up, applying operators, printing, installing
and finding functions respect it. `Likeness.steps_expr` is the induction: the
whole evaluations go alike then, with every budget.
-/

namespace PrefixCalc

variable {ε σ α β γ δ : Type}

/-- Whether two answers are both results or both errors and related. -/
inductive AnswerAlike (value : α → β → Prop) (failure : ε → ε → Prop) :
    Except ε α → Except ε β → Prop
  /-- Both are results. -/
  | ok {result : α} {twin : β} : value result twin →
    AnswerAlike value failure (.ok result) (.ok twin)
  /-- Both are errors. -/
  | error {error twin : ε} : failure error twin →
    AnswerAlike value failure (.error error) (.error twin)

/-- Whether two outcomes are both results or both errors and related, in related states. -/
inductive EndAlike (value : α → β → Prop) (failure : ε → ε → Prop) (states : σ → σ → Prop) :
    EStateM.Result ε σ α → EStateM.Result ε σ β → Prop
  /-- Both are results. -/
  | ok {result : α} {twin : β} {after last : σ} : value result twin → states after last →
    EndAlike value failure states (.ok result after) (.ok twin last)
  /-- Both are errors. -/
  | error {error twin : ε} {after last : σ} : failure error twin → states after last →
    EndAlike value failure states (.error error after) (.error twin last)

/-- What two outcomes satisfy can be weakened. -/
theorem EndAlike.mono {value : α → β → Prop} {failure : ε → ε → Prop} {states weaker : σ → σ → Prop}
    {outcome : EStateM.Result ε σ α} {twin : EStateM.Result ε σ β}
    (alike : EndAlike value failure states outcome twin)
    (weakens : ∀ {after last}, states after last → weaker after last) :
    EndAlike value failure weaker outcome twin := by
  cases alike with
  | ok related paired => exact .ok related (weakens paired)
  | error related paired => exact .error related (weakens paired)

/-- Whether two steps end alike wherever they start in related states. -/
def GoAlike (value : α → β → Prop) (failure : ε → ε → Prop) (states : σ → σ → Prop)
    (action : EStateM ε σ α) (twin : EStateM ε σ β) : Prop :=
  ∀ state other, states state other → EndAlike value failure states (action state) (twin other)

namespace GoAlike

variable {value : α → β → Prop} {failure : ε → ε → Prop} {states : σ → σ → Prop}

/-- Related results alone go alike. -/
theorem pure {result : α} {twin : β} (related : value result twin) :
    GoAlike value failure states (pure result : EStateM ε σ α) (pure twin) :=
  fun _ _ paired => .ok related paired

/-- Related errors alone go alike. -/
theorem throw {error twin : ε} (related : failure error twin) :
    GoAlike value failure states (throw error : EStateM ε σ α) (throw twin) :=
  fun _ _ paired => .error related paired

/-- Steps that go alike, one after another, go alike together. -/
theorem bind {last : γ → δ → Prop} {action : EStateM ε σ α} {twin : EStateM ε σ β}
    {next : α → EStateM ε σ γ} {twinNext : β → EStateM ε σ δ}
    (first : GoAlike value failure states action twin)
    (second : ∀ {result other}, value result other →
      GoAlike last failure states (next result) (twinNext other)) :
    GoAlike last failure states (action >>= next) (twin >>= twinNext) := by
  intro state other paired
  have ends := first state other paired
  change EndAlike last failure states (EStateM.bind action next state)
    (EStateM.bind twin twinNext other)
  unfold EStateM.bind
  generalize action state = outcome, twin other = ended at ends
  cases ends with
  | ok related still => exact second related _ _ still
  | error related still => exact .error related still

end GoAlike

/-! ## Tables -/

namespace Table

/-- Whether two tables have the same names in the same order, with related values. -/
def Related (value : α → β → Prop) (table : Table α) (twin : Table β) : Prop :=
  List.Forall₂ (fun entry other => entry.1 = other.1 ∧ value entry.2 other.2) table.entries
    twin.entries

namespace Related

variable {value : α → β → Prop} {table : Table α} {twin : Table β}

/-- Tables without names are related. -/
theorem empty : Related value (∅ : Table α) (∅ : Table β) :=
  .nil

/-- Looking a name up in related tables gives related values, or none in both. -/
theorem find? (related : Related value table twin) (name : String) :
    Option.Rel value (table.find? name) (twin.find? name) := by
  obtain ⟨entries⟩ := table
  obtain ⟨others⟩ := twin
  change List.Forall₂ _ entries others at related
  change Option.Rel value (entries.lookup name) (others.lookup name)
  induction related with
  | nil => exact .none
  | @cons entry other rest others same _ ih =>
    rw [lookup_cons, lookup_cons, ← same.1]
    split
    · exact .some same.2
    · exact ih

/-- Related tables contain the same names. -/
theorem contains (related : Related value table twin) (name : String) :
    table.contains name = twin.contains name := by
  have found := related.find? name
  unfold Table.contains
  generalize table.find? name = value, twin.find? name = other at found
  cases found with
  | some _ => rfl
  | none => rfl

/-- Related tables stay related when a name is given related values. -/
theorem insert (related : Related value table twin) (name : String) {new : α} {other : β}
    (values : value new other) :
    Related value (table.insert name new) (twin.insert name other) := by
  obtain ⟨entries⟩ := table
  obtain ⟨others⟩ := twin
  change List.Forall₂ _ entries others at related
  change List.Forall₂ _ (insertEntry name new entries) (insertEntry name other others)
  induction related with
  | nil => exact .cons ⟨rfl, values⟩ .nil
  | @cons entry twinEntry rest others same later ih =>
    obtain ⟨known, old⟩ := entry
    obtain ⟨_, oldTwin⟩ := twinEntry
    obtain ⟨rfl, oldValues⟩ := same
    unfold insertEntry
    split
    · exact .cons ⟨rfl, values⟩ later
    · exact .cons ⟨rfl, oldValues⟩ ih

end Related

end Table

/-! ## Expressions of one form -/

/-- Whether two expressions are of one form: the same names, parameters and operators, related
literals, and `inner` relates what stands at the same places. -/
inductive Expr.Matched (literals : Value → Value → Prop) (inner : Expr → Expr → Prop) :
    Expr → Expr → Prop
  | literal {value twin : Value} : literals value twin →
    Matched literals inner (.literal value) (.literal twin)
  | get (name : String) : Matched literals inner (.get name) (.get name)
  | define (name : String) {value twin : Expr} : inner value twin →
    Matched literals inner (.define name value) (.define name twin)
  | assign (name : String) {value twin : Expr} : inner value twin →
    Matched literals inner (.assign name value) (.assign name twin)
  | binary (operator : BinaryOp) {left right leftTwin rightTwin : Expr} :
    inner left leftTwin → inner right rightTwin →
    Matched literals inner (.binary operator left right) (.binary operator leftTwin rightTwin)
  | unary (operator : UnaryOp) {operand twin : Expr} : inner operand twin →
    Matched literals inner (.unary operator operand) (.unary operator twin)
  | choose {condition whenTrue whenFalse conditionTwin trueTwin falseTwin : Expr} :
    inner condition conditionTwin → inner whenTrue trueTwin → inner whenFalse falseTwin →
    Matched literals inner (.choose condition whenTrue whenFalse)
      (.choose conditionTwin trueTwin falseTwin)
  | print {value twin : Expr} : inner value twin →
    Matched literals inner (.print value) (.print twin)
  | function (name : String) (parameters : List String) {body twins : List Expr} :
    List.Forall₂ inner body twins →
    Matched literals inner (.function name parameters body) (.function name parameters twins)
  | call (name : String) {arguments twins : List Expr} : List.Forall₂ inner arguments twins →
    Matched literals inner (.call name arguments) (.call name twins)
  | gap (gap : Gap) : Matched literals inner (.gap gap) (.gap gap)

/-- Whether two functions have the same parameters and `inner` relates their bodies. -/
structure Function.Matched (inner : Expr → Expr → Prop) (function twin : Function) : Prop where
  /-- The parameters are the same. -/
  parameters : function.parameters = twin.parameters
  /-- The bodies are as long as each other, and related one by one. -/
  body : List.Forall₂ inner function.body twin.body

/-! ## Runs -/

/-- Whether two runs see related variables, functions and events. -/
structure Run.Paired (value : Value → Value → Prop) (functions : Functions → Functions → Prop)
    (events : Array Event → Array Event → Prop) (run twin : Run) : Prop where
  /-- The variables of the current frames have the same names in the same order. -/
  locals : run.environment.locals.Related value twin.environment.locals
  /-- The functions are related. -/
  functions : functions run.environment.functions twin.environment.functions
  /-- What has happened is related. -/
  events : events run.events twin.events

/-- Runs are paired with other variables if those are related. -/
theorem Run.Paired.withLocals {value : Value → Value → Prop}
    {functions : Functions → Functions → Prop} {events : Array Event → Array Event → Prop}
    {run twin : Run} (paired : Run.Paired value functions events run twin)
    {locals others : Variables} (related : locals.Related value others) :
    Run.Paired value functions events (run.withLocals locals) (twin.withLocals others) :=
  ⟨related, paired.functions, paired.events⟩

namespace Eval

/-- A way in which two evaluations may be alike, and why they stay so. -/
structure Likeness where
  /-- How expressions are related. -/
  expr : Expr → Expr → Prop
  /-- How values are related. -/
  value : Value → Value → Prop
  /-- How faults are related. -/
  fault : Fault → Fault → Prop
  /-- How functions are related. -/
  functions : Functions → Functions → Prop
  /-- How events are related. -/
  events : Array Event → Array Event → Prop
  /-- Related expressions are of one form, with related expressions inside. -/
  matched : ∀ {code twin}, expr code twin → Expr.Matched value expr code twin
  /-- Equal values are related. -/
  valueRefl : ∀ result, value result result
  /-- Equal faults are related. -/
  faultRefl : ∀ cause, fault cause cause
  /-- Operators answer alike at related operands. -/
  binary : ∀ (operator : BinaryOp) {left right leftTwin rightTwin}, value left leftTwin →
    value right rightTwin →
    AnswerAlike value fault (operator.apply left right) (operator.apply leftTwin rightTwin)
  /-- Operators answer alike at a related operand. -/
  unary : ∀ (operator : UnaryOp) {operand twin}, value operand twin →
    AnswerAlike value fault (operator.apply operand) (operator.apply twin)
  /-- Related conditions are decided the same way. -/
  choose : ∀ {condition whenTrue whenFalse conditionTwin trueTwin falseTwin},
    expr (.choose condition whenTrue whenFalse) (.choose conditionTwin trueTwin falseTwin) →
    ∀ {result twin}, value result twin → AnswerAlike Eq fault result.toBoolean twin.toBoolean
  /-- Related values may be printed. -/
  print : ∀ {result twin earlier others}, value result twin → events earlier others →
    events (earlier.push (.printed result)) (others.push (.printed twin))
  /-- Related definitions are accepted or refused alike. -/
  install : ∀ {name parameters body twins},
    expr (.function name parameters body) (.function name parameters twins) →
    GoAlike value fault (Run.Paired value functions events)
      (Eval.install name ⟨parameters, body⟩) (Eval.install name ⟨parameters, twins⟩)
  /-- Related calls find related functions, or none in both tables. -/
  find : ∀ {name arguments twins}, expr (.call name arguments) (.call name twins) →
    ∀ {table other}, functions table other →
    Option.Rel (Function.Matched expr) (table.find? name) (other.find? name)

namespace Likeness

variable (likeness : Likeness)

/-- Whether two runs are alike. -/
def Runs (run twin : Run) : Prop :=
  Run.Paired likeness.value likeness.functions likeness.events run twin

/-- Whether two steps of evaluations go alike, up to how their results are related. -/
def Steps (value : α → β → Prop) (action : Eval α) (twin : Eval β) : Prop :=
  GoAlike value likeness.fault likeness.Runs action twin

variable {likeness}

/-- Answers that are alike go alike. -/
theorem steps_ofExcept {value : α → β → Prop} {answer : Except Fault α} {twin : Except Fault β}
    (alike : AnswerAlike value likeness.fault answer twin) :
    likeness.Steps value (ofExcept answer) (ofExcept twin) := by
  cases alike with
  | ok related => exact GoAlike.pure related
  | error related => exact GoAlike.throw related

/-- Reading a variable goes alike. -/
theorem steps_get (name : String) :
    likeness.Steps likeness.value (do ofExcept ((← locals).get name))
      (do ofExcept ((← locals).get name)) := by
  intro run twin paired
  rw [locals_bind, locals_bind]
  refine steps_ofExcept ?_ run twin paired
  have found := paired.locals.find? name
  unfold Variables.get
  generalize run.environment.locals.find? name = result,
    twin.environment.locals.find? name = other at found
  cases found with
  | some related => exact .ok related
  | none => exact .error (likeness.faultRefl _)

variable {result other : Value}

/-- Defining a variable goes alike at related values. -/
theorem steps_define (name : String) (related : likeness.value result other) :
    likeness.Steps likeness.value (define name result) (define name other) := by
  intro run twin paired
  rw [define_apply, define_apply, ← paired.locals.contains name]
  split
  · exact .error (likeness.faultRefl _) paired
  · exact .ok related (paired.withLocals (paired.locals.insert name related))

/-- Changing a variable goes alike at related values. -/
theorem steps_assign (name : String) (related : likeness.value result other) :
    likeness.Steps likeness.value (assign name result) (assign name other) := by
  intro run twin paired
  rw [assign_apply, assign_apply, ← paired.locals.contains name]
  split
  · exact .ok related (paired.withLocals (paired.locals.insert name related))
  · exact .error (likeness.faultRefl _) paired

/-- Printing goes alike at related values. -/
theorem steps_print (related : likeness.value result other) :
    likeness.Steps likeness.value (do emit (.printed result); return result)
      (do emit (.printed other); return other) :=
  fun _ _ paired =>
    .ok related ⟨paired.locals, paired.functions, likeness.print related paired.events⟩

/-- Binding parameters to related values gives related variables, or fails for the same name. -/
theorem defineAll_alike (parameters : List String) {values others : List Value}
    (related : List.Forall₂ likeness.value values others) {locals twin : Variables}
    (before : locals.Related likeness.value twin) :
    AnswerAlike (Table.Related likeness.value) likeness.fault
      (locals.defineAll (parameters.zip values)) (twin.defineAll (parameters.zip others)) := by
  induction parameters generalizing values others locals twin with
  | nil => exact .ok before
  | cons name parameters ih =>
    cases related with
    | nil => exact .ok before
    | @cons first firstTwin rest restTwin head tail =>
      simp only [List.zip_cons_cons, Variables.defineAll, Variables.define]
      rw [← before.contains name]
      split
      · exact .error (likeness.faultRefl _)
      · exact ih tail (before.insert name head)

/-- Frames of their own go alike if their bodies do. -/
theorem steps_inFrame {value : α → β → Prop} {locals others : Variables} {body : Eval α}
    {twin : Eval β} (related : locals.Related likeness.value others)
    (bodies : likeness.Steps value body twin) :
    likeness.Steps value (inFrame locals body) (inFrame others twin) := by
  intro run other paired
  have ends := bodies _ _ (paired.withLocals related)
  rw [inFrame_apply, inFrame_apply]
  generalize body (run.withLocals locals) = outcome, twin (other.withLocals others) = ended at ends
  cases ends with
  | ok same after => exact .ok same (after.withLocals paired.locals)
  | error same after => exact .error same (after.withLocals paired.locals)

section

variable {inner innerTwin : Expr → Eval Value}

/-- Arguments go alike if related expressions do. -/
theorem steps_each
    (steps : ∀ {code twin}, likeness.expr code twin →
      likeness.Steps likeness.value (inner code) (innerTwin twin))
    {arguments twins : List Expr} (related : List.Forall₂ likeness.expr arguments twins) :
    likeness.Steps (List.Forall₂ likeness.value) (each inner arguments) (each innerTwin twins) := by
  induction related with
  | nil => exact GoAlike.pure .nil
  | cons head _ ih =>
    refine GoAlike.bind (steps head) fun first => ?_
    exact GoAlike.bind ih fun rest => GoAlike.pure (.cons first rest)

/-- Bodies go alike if related expressions do. -/
theorem steps_sequence
    (steps : ∀ {code twin}, likeness.expr code twin →
      likeness.Steps likeness.value (inner code) (innerTwin twin))
    {body twins : List Expr} (related : List.Forall₂ likeness.expr body twins)
    {soFar twin : Value} (same : likeness.value soFar twin) :
    likeness.Steps likeness.value (sequence inner soFar body) (sequence innerTwin twin twins) := by
  induction related generalizing soFar twin with
  | nil => exact GoAlike.pure same
  | cons head _ ih => exact GoAlike.bind (steps head) fun value => ih value

/-- Calls of related functions with related arguments go alike. -/
theorem steps_invoke
    (steps : ∀ {code twin}, likeness.expr code twin →
      likeness.Steps likeness.value (inner code) (innerTwin twin))
    {function other : Function} (same : function.Matched likeness.expr other)
    {arguments twins : List Expr} (related : List.Forall₂ likeness.expr arguments twins) :
    likeness.Steps likeness.value (invoke inner function arguments)
      (invoke innerTwin other twins) := by
  unfold invoke
  rw [← same.parameters, ← related.length_eq]
  split
  · exact GoAlike.throw (likeness.faultRefl _)
  · refine GoAlike.bind (steps_each steps related) fun values => ?_
    refine GoAlike.bind (steps_ofExcept (defineAll_alike _ values .empty)) fun locals => ?_
    exact steps_inFrame locals (steps_sequence steps same.body (likeness.valueRefl _))

/-- Related expressions go alike if what is evaluated inside them does. -/
theorem steps_form
    (steps : ∀ {code twin}, likeness.expr code twin →
      likeness.Steps likeness.value (inner code) (innerTwin twin))
    {code twin : Expr} (related : likeness.expr code twin) :
    likeness.Steps likeness.value (form inner code) (form innerTwin twin) := by
  cases likeness.matched related with
  | literal same => exact GoAlike.pure same
  | get name => exact steps_get name
  | define name inside => exact GoAlike.bind (steps inside) fun value => steps_define name value
  | assign name inside => exact GoAlike.bind (steps inside) fun value => steps_assign name value
  | binary operator left right =>
    refine GoAlike.bind (steps left) fun first => GoAlike.bind (steps right) fun second => ?_
    exact steps_ofExcept (likeness.binary operator first second)
  | unary operator inside =>
    exact GoAlike.bind (steps inside) fun value => steps_ofExcept (likeness.unary operator value)
  | choose condition whenTrue whenFalse =>
    refine GoAlike.bind (steps condition) fun value => ?_
    refine GoAlike.bind (steps_ofExcept (likeness.choose related value)) ?_
    rintro decision _ rfl
    cases decision with
    | true => exact steps whenTrue
    | false => exact steps whenFalse
  | print inside => exact GoAlike.bind (steps inside) fun value => steps_print value
  | function name parameters _ => exact likeness.install related
  | call name arguments =>
    intro run other paired
    have found := likeness.find related paired.functions
    rw [form_call_apply, form_call_apply]
    generalize run.environment.functions.find? name = function,
      other.environment.functions.find? name = functionTwin at found
    cases found with
    | some same => exact steps_invoke steps same arguments run other paired
    | none => exact .error (likeness.faultRefl _) paired
  | gap gap => exact GoAlike.throw (likeness.faultRefl _)

end

/-- Evaluations of related expressions go alike, whatever the budget. -/
theorem steps_expr (budget : Nat) {code twin : Expr} (related : likeness.expr code twin) :
    likeness.Steps likeness.value (Eval.expr budget code) (Eval.expr budget twin) := by
  induction budget generalizing code twin with
  | zero => exact GoAlike.throw (likeness.faultRefl _)
  | succ budget ih => exact steps_form ih related

end Likeness

end Eval

end PrefixCalc
