import PrefixCalc.Eval
import PrefixCalc.Proofs.Outcome

/-!
# Budgets

A step that recurses has a budget, and an error says that it is spent. A larger
budget answers as a smaller one does unless the smaller one is spent (`Extends`).
So steps that each answer with some budget, one after another, answer together
with some budget (`Settles.bind`), and then with every larger one
(`Grows.exists_settled`). Evaluation is such a step (`Eval.grows_expr`).
-/

namespace PrefixCalc

variable {ε σ α β : Type} {spent : ε}

/-- Whether an outcome is another one than a spent budget. -/
def Settled (spent : ε) : EStateM.Result ε σ α → Prop :=
  Ends (fun _ _ => True) (fun error _ => error ≠ spent)

/-- An outcome is settled if it is not the error of a spent budget. -/
theorem settled_iff {outcome : EStateM.Result ε σ α} :
    Settled spent outcome ↔ ∀ after, outcome ≠ .error spent after := by
  cases outcome with
  | ok result state =>
    refine ⟨fun _ after same => ?_, fun _ => trivial⟩
    cases same
  | error error state =>
    refine ⟨fun other after same => ?_, fun never same => never state (by rw [same])⟩
    cases same
    exact other rfl

/-- Whether one step answers as another does, wherever the budget of that one is not spent. -/
def Extends (spent : ε) (larger smaller : EStateM ε σ α) : Prop :=
  ∀ state, Settled spent (smaller state) → larger state = smaller state

namespace Extends

/-- A step answers as itself. -/
theorem refl (action : EStateM ε σ α) : Extends spent action action :=
  fun _ _ => rfl

/-- Where the budget is spent at once every step answers as well. -/
theorem of_throw (action : EStateM ε σ α) : Extends spent action (throw spent) :=
  fun _ settled => absurd rfl settled

/-- Steps one after another answer as others do if each of them does. -/
theorem bind {larger smaller : EStateM ε σ α} {largerNext smallerNext : α → EStateM ε σ β}
    (first : Extends spent larger smaller)
    (second : ∀ result, Extends spent (largerNext result) (smallerNext result)) :
    Extends spent (larger >>= largerNext) (smaller >>= smallerNext) := by
  intro state settled
  change EStateM.bind larger largerNext state = EStateM.bind smaller smallerNext state
  change Settled spent (EStateM.bind smaller smallerNext state) at settled
  have same := first state
  unfold EStateM.bind at settled ⊢
  cases outcome : smaller state with
  | ok result after =>
    rw [outcome] at same settled
    rw [same trivial]
    exact second result after settled
  | error error after =>
    rw [outcome] at same settled
    rw [same settled]

end Extends

/-- Whether larger budgets answer as smaller ones do, wherever these are not spent. -/
def Grows (spent : ε) (action : Nat → EStateM ε σ α) : Prop :=
  ∀ ⦃low high⦄, low ≤ high → Extends spent (action high) (action low)

/-- Whether a step answers in a state with some budget. -/
def Settles (spent : ε) (action : Nat → EStateM ε σ α) (state : σ) : Prop :=
  ∃ budget, Settled spent (action budget state)

/-- A step that answers with some budget answers with every larger one. -/
theorem Grows.exists_settled {action : Nat → EStateM ε σ α} {state : σ}
    (grows : Grows spent action) (settles : Settles spent action state) :
    ∃ depth, ∀ budget, depth ≤ budget → Settled spent (action budget state) := by
  obtain ⟨depth, settled⟩ := settles
  refine ⟨depth, fun budget enough => ?_⟩
  rw [grows enough state settled]
  exact settled

/-- A step without a budget answers with every one as with any other. -/
theorem Grows.const (action : EStateM ε σ α) : Grows spent fun _ => action :=
  fun _ _ _ => Extends.refl action

/-- Steps that grow, one after another, grow together. -/
theorem Grows.bind {action : Nat → EStateM ε σ α} {next : α → Nat → EStateM ε σ β}
    (first : Grows spent action) (second : ∀ result, Grows spent (next result)) :
    Grows spent fun budget => action budget >>= fun result => next result budget :=
  fun _ _ enough => Extends.bind (first enough) fun result => second result enough

/-- A step that needs no budget and does not spend it answers. -/
theorem settles_of_settled {action : EStateM ε σ α} {state : σ}
    (settled : Settled spent (action state)) : Settles spent (fun _ => action) state :=
  ⟨0, settled⟩

/-- Two steps answer one after another if the first one does and the second one does from every
state in which the first one can end. -/
theorem Settles.bind {action : Nat → EStateM ε σ α} {next : α → Nat → EStateM ε σ β} {state : σ}
    (grows : Grows spent action) (growsNext : ∀ result, Grows spent (next result))
    (first : Settles spent action state)
    (second : ∀ budget result after, action budget state = .ok result after →
      Settles spent (next result) after) :
    Settles spent (fun budget => action budget >>= fun result => next result budget) state := by
  obtain ⟨low, settled⟩ := first
  cases outcome : action low state with
  | error error after =>
    refine ⟨low, ?_⟩
    change Settled spent (EStateM.bind (action low) _ state)
    rw [EStateM.bind, outcome]
    rw [outcome] at settled
    exact settled
  | ok result after =>
    obtain ⟨later, settledNext⟩ := second low result after outcome
    have same := grows (Nat.le_max_left low later) state settled
    have sameNext := growsNext result (Nat.le_max_right low later) after settledNext
    refine ⟨max low later, ?_⟩
    change Settled spent (EStateM.bind (action (max low later)) _ state)
    rw [EStateM.bind, same, outcome]
    change Settled spent (next result (max low later) after)
    rw [sameNext]
    exact settledNext

namespace Eval

/-! ## Evaluation -/

/-- A frame of its own answers as another does if its body does. -/
theorem extends_inFrame {larger smaller : Eval α} (locals : Variables)
    (body : Extends .tooDeep larger smaller) :
    Extends .tooDeep (inFrame locals larger) (inFrame locals smaller) := by
  intro run settled
  have same := body (run.withLocals locals)
  rw [inFrame_apply] at settled ⊢
  rw [inFrame_apply]
  cases outcome : smaller (run.withLocals locals) with
  | ok result after =>
    rw [outcome] at same
    rw [same trivial]
  | error fault after =>
    rw [outcome] at same settled
    rw [same settled]

section

variable {larger smaller : Expr → Eval Value}

/-- Arguments answer as they do if each of them does. -/
theorem extends_each (inner : ∀ code, Extends .tooDeep (larger code) (smaller code))
    (arguments : List Expr) :
    Extends .tooDeep (each larger arguments) (each smaller arguments) := by
  induction arguments with
  | nil => exact Extends.refl _
  | cons first rest ih =>
    exact Extends.bind (inner first) fun value =>
      Extends.bind ih fun values => Extends.refl (pure (value :: values))

/-- Bodies answer as they do if each of their expressions does. -/
theorem extends_sequence (inner : ∀ code, Extends .tooDeep (larger code) (smaller code))
    (soFar : Value) (body : List Expr) :
    Extends .tooDeep (sequence larger soFar body) (sequence smaller soFar body) := by
  induction body generalizing soFar with
  | nil => exact Extends.refl _
  | cons first rest ih => exact Extends.bind (inner first) fun value => ih value

/-- Calls answer as they do if arguments and bodies do. -/
theorem extends_invoke (inner : ∀ code, Extends .tooDeep (larger code) (smaller code))
    (function : Function) (arguments : List Expr) :
    Extends .tooDeep (invoke larger function arguments) (invoke smaller function arguments) := by
  unfold invoke
  split
  · exact Extends.refl _
  · refine Extends.bind (extends_each inner arguments) fun values => ?_
    refine Extends.bind (Extends.refl _) fun locals => ?_
    exact extends_inFrame locals (extends_sequence inner _ _)

/-- Expressions answer as they do if what is evaluated inside them does. -/
theorem extends_form (inner : ∀ code, Extends .tooDeep (larger code) (smaller code))
    (code : Expr) : Extends .tooDeep (form larger code) (form smaller code) := by
  cases code with
  | literal value => exact Extends.refl _
  | get name => exact Extends.refl _
  | define name value => exact Extends.bind (inner value) fun _ => Extends.refl _
  | assign name value => exact Extends.bind (inner value) fun _ => Extends.refl _
  | binary operator left right =>
    exact Extends.bind (inner left) fun _ => Extends.bind (inner right) fun _ => Extends.refl _
  | unary operator operand => exact Extends.bind (inner operand) fun _ => Extends.refl _
  | choose condition whenTrue whenFalse =>
    refine Extends.bind (inner condition) fun _ => Extends.bind (Extends.refl _) fun decision => ?_
    cases decision with
    | true => exact inner whenTrue
    | false => exact inner whenFalse
  | print value => exact Extends.bind (inner value) fun _ => Extends.refl _
  | function name parameters body => exact Extends.refl _
  | call name arguments =>
    exact Extends.bind (Extends.refl _) fun _ => Extends.bind (Extends.refl _) fun function =>
      extends_invoke inner function arguments
  | gap gap => exact Extends.refl _

end

/-- Larger budgets evaluate as smaller ones do, wherever these are not spent. -/
theorem grows_expr (code : Expr) : Grows .tooDeep fun budget => expr budget code := by
  intro low high enough
  induction low generalizing high code with
  | zero => exact Extends.of_throw _
  | succ low ih =>
    obtain ⟨high, rfl⟩ : ∃ larger, high = larger + 1 := ⟨high - 1, by omega⟩
    exact extends_form (fun inner => ih inner (by omega)) code

/-- Larger budgets evaluate arguments as smaller ones do. -/
theorem grows_each (arguments : List Expr) :
    Grows .tooDeep fun budget => each (expr budget) arguments :=
  fun _ _ enough => extends_each (fun code => grows_expr code enough) arguments

/-- Larger budgets evaluate bodies as smaller ones do. -/
theorem grows_sequence (soFar : Value) (body : List Expr) :
    Grows .tooDeep fun budget => sequence (expr budget) soFar body :=
  fun _ _ enough => extends_sequence (fun code => grows_expr code enough) soFar body

end Eval

end PrefixCalc
