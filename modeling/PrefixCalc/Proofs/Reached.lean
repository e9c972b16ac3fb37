import PrefixCalc.Proofs.CallGraph
import PrefixCalc.Proofs.Evaluation

/-!
# Tables reached by evaluations

`Functions.Reached` are the tables that evaluations make of the empty one, in any
frames, with any budgets, whatever each of them ends in. What holds of the empty
table and is kept by evaluations holds of all of them (`Reached.holds`); above all,
no table that is ever reached has a cycle of calls.
-/

namespace PrefixCalc.Functions

/-- The tables that evaluations of allowed expressions, one after another, make of the empty table.
Each may have a frame and a budget of its own and may end in a value or in a fault. -/
inductive Reached (allowed : Expr → Prop) : Functions → Prop
  /-- Nothing was evaluated yet. -/
  | empty : Reached allowed ∅
  /-- One more evaluation. -/
  | evaluate (budget : Nat) (code : Expr) (run : Run) :
    allowed code → Reached allowed run.environment.functions →
      Reached allowed (stateAfter (Eval.expr budget code) run).environment.functions

/-- What holds of the empty table and is kept by evaluations holds of every reached table. -/
theorem Reached.holds {allowed : Expr → Prop} {keep : Functions → Prop} {excused : Fault → Prop}
    (discipline : Eval.Discipline allowed (fun run => keep run.environment.functions) excused)
    (start : keep ∅) {functions : Functions} (reached : Reached allowed functions) :
    keep functions := by
  induction reached with
  | empty => exact start
  | evaluate budget code run fine before ih => exact discipline.holds_after budget fine ih

/-- Evaluations keep the call graph free of cycles. -/
theorem acyclic_discipline :
    Eval.Discipline (fun _ => True) (fun run => run.environment.functions.Acyclic)
      fun _ => True :=
  .ofFunctions Acyclic (fun _ _ => trivial) (fun _ _ _ => trivial)
    (fun acyclic _ accepted => acyclic.insert accepted) fun _ => trivial

/-- No table that evaluations reach has a cycle of calls, whatever they define, redefine and call,
wherever they do it and however they end. -/
theorem Reached.acyclic {functions : Functions} (reached : Reached (fun _ => True) functions) :
    functions.Acyclic :=
  reached.holds acyclic_discipline acyclic_empty

/-- A function that is redefined while it is called leaves no cycle. -/
theorem reached_acyclic_redefinition :
    let caller := Expr.function "f" [] [.call "g" []]
    let called := Expr.function "g" [] [.function "f" [] [.call "h" []]]
    let first := stateAfter (Eval.expr 1 caller) {}
    let second := stateAfter (Eval.expr 1 called) first
    let third := stateAfter (Eval.expr 3 (.call "f" [])) second
    third.environment.functions.callees "f" = ["h"] ∧ third.environment.functions.Acyclic := by
  intro caller called first second third
  refine ⟨by decide +kernel, Reached.acyclic ?_⟩
  exact .evaluate 3 _ second trivial (.evaluate 1 _ first trivial
    (.evaluate 1 _ {} trivial .empty))

end PrefixCalc.Functions
