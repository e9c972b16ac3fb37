import PrefixCalc.Proofs.Relevance

/-!
# What happened before an evaluation

Evaluations add to the events and never look at them. So what happened before an
evaluation decides nothing: from two pasts it gives the same value or fault and
leaves the same environment (`ends_from_past`), and what relates the two pasts and
is kept by adding an event to both relates them still.
-/

namespace PrefixCalc

/-- An expression is of one form with itself. -/
theorem Expr.matched_refl (code : Expr) : Matched Eq Eq code code := by
  cases code with
  | literal value => exact .literal rfl
  | get name => exact .get name
  | define name value => exact .define name rfl
  | assign name value => exact .assign name rfl
  | binary operator left right => exact .binary operator rfl rfl
  | unary operator operand => exact .unary operator rfl
  | choose condition whenTrue whenFalse => exact .choose rfl rfl rfl
  | print value => exact .print rfl
  | function name parameters body =>
    exact .function name parameters (List.forall₂_same.mpr fun _ _ => rfl)
  | call name arguments => exact .call name (List.forall₂_same.mpr fun _ _ => rfl)
  | gap gap => exact .gap gap

namespace Eval

/-- Evaluations of one expression in one environment are alike, whatever happened before. -/
def fromPast (past : Array Event → Array Event → Prop)
    (push : ∀ {earlier others} event, past earlier others →
      past (earlier.push event) (others.push event)) : Likeness where
  expr := Eq
  value := Eq
  fault := Eq
  functions := Eq
  events := past
  matched := by
    rintro code _ rfl
    exact code.matched_refl
  valueRefl _ := rfl
  faultRefl _ := rfl
  binary := binary_alike_of_eq
  unary := unary_alike_of_eq
  choose := by
    rintro _ _ _ _ _ _ _ result _ rfl
    exact answerAlike_refl result.toBoolean
  print := by
    rintro result _ earlier others rfl related
    exact push (.printed result) related
  install := by
    rintro name parameters body twins same run other ⟨locals, functions, events⟩
    obtain rfl : body = twins := by
      cases same
      rfl
    rw [install_apply, install_apply, ← functions]
    split
    · exact .error rfl ⟨locals, functions, push _ events⟩
    · exact .ok rfl ⟨locals, rfl, push _ events⟩
  find := by
    rintro name arguments twins - table _ rfl
    cases table.find? name with
    | none => exact .none
    | some function =>
      exact .some ⟨rfl, List.forall₂_same.mpr fun _ _ => rfl⟩

/-- An evaluation from two pasts gives the same value or the same fault and leaves the same
environment, and the pasts stay related. -/
theorem ends_from_past (past : Array Event → Array Event → Prop)
    (push : ∀ {earlier others} event, past earlier others →
      past (earlier.push event) (others.push event))
    (budget : Nat) (code : Expr) (environment : Environment) {earlier others : Array Event}
    (related : past earlier others) :
    EndAlike Eq Eq
      (fun after last => after.environment = last.environment ∧ past after.events last.events)
      (expr budget code ⟨environment, earlier⟩) (expr budget code ⟨environment, others⟩) := by
  let likeness := fromPast past push
  have paired : likeness.Runs ⟨environment, earlier⟩ ⟨environment, others⟩ :=
    ⟨Table.related_eq.mpr rfl, rfl, related⟩
  have ends := @Likeness.steps_expr likeness budget code code rfl _ _ paired
  refine ends.mono fun {after last} still => ⟨?_, still.events⟩
  have locals : after.environment.locals = last.environment.locals :=
    Table.related_eq.mp still.locals
  have functions : after.environment.functions = last.environment.functions := still.functions
  exact congrArg₂ Environment.mk locals functions

section

variable {budget : Nat} {code : Expr} {environment : Environment} {run : Run}

/-- An evaluation behind any past ends as it does with nothing before it. -/
theorem ends_from_nothing (budget : Nat) (code : Expr) (environment : Environment)
    (events : Array Event) :
    EndAlike Eq Eq (fun after last => after.environment = last.environment)
      (expr budget code ⟨environment, events⟩) (expr budget code { environment }) := by
  have ends : EndAlike Eq Eq (fun after last => after.environment = last.environment ∧ True)
      (expr budget code ⟨environment, events⟩) (expr budget code { environment }) :=
    ends_from_past (fun _ _ => True) (fun _ _ => trivial) budget code environment trivial
  exact ends.mono fun still => still.1

/-- A value that an evaluation gives with nothing before it is given behind any past. -/
theorem exists_eq_ok_from_past (events : Array Event) {value : Value}
    (alone : expr budget code { environment } = .ok value run) :
    ∃ after, expr budget code ⟨environment, events⟩ = .ok value after ∧
      after.environment = run.environment := by
  have ends := ends_from_nothing budget code environment events
  rw [alone] at ends
  generalize expr budget code ⟨environment, events⟩ = outcome at ends
  cases ends with
  | @ok _ _ after _ same paired => exact ⟨after, by rw [same], paired⟩

/-- A fault in which an evaluation ends with nothing before it is met behind any past. -/
theorem exists_eq_error_from_past (events : Array Event) {fault : Fault}
    (alone : expr budget code { environment } = .error fault run) :
    ∃ after, expr budget code ⟨environment, events⟩ = .error fault after ∧
      after.environment = run.environment := by
  have ends := ends_from_nothing budget code environment events
  rw [alone] at ends
  generalize expr budget code ⟨environment, events⟩ = outcome at ends
  cases ends with
  | @error _ _ after _ same paired => exact ⟨after, by rw [same], paired⟩

end

end Eval

end PrefixCalc
