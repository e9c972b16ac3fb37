import PrefixCalc.Proofs.CallGraph
import PrefixCalc.Proofs.Parallel
import PrefixCalc.Proofs.Parts

/-!
# Functions that an evaluation cannot reach

The calls of an expression, followed through the bodies of installed functions, lead
to some names (`Functions.LeadsTo`). Where no function is defined on the way, an
evaluation looks up no others: two tables that agree on these names evaluate the
expression alike, whatever else they hold (`unreached_functions_irrelevant`).
-/

namespace PrefixCalc

open Relation

/-- Whether the calls of an expression, followed through the bodies of installed functions, lead to
a name. -/
def Functions.LeadsTo (functions : Functions) (code : Expr) (name : String) : Prop :=
  ∃ start ∈ Expr.calls [code], ReflTransGen functions.Calls start name

/-- An expression leads to what it calls. -/
theorem Functions.leadsTo_of_mayCall {functions : Functions} {code : Expr} {name : String}
    (may : code.MayCall name) : functions.LeadsTo code name :=
  ⟨name, Expr.mem_calls.mpr ⟨code, List.mem_singleton_self code, may⟩, .refl⟩

/-- An expression leads to what is called in the bodies that it leads to. -/
theorem Functions.LeadsTo.body {functions : Functions} {code inner : Expr} {name callee : String}
    {function : Function} (leads : functions.LeadsTo code name)
    (found : functions.find? name = some function) (inside : inner ∈ function.body)
    (may : inner.MayCall callee) : functions.LeadsTo code callee := by
  obtain ⟨start, called, path⟩ := leads
  have step : functions.Calls name callee := by
    unfold Functions.Calls Functions.callees
    rw [found]
    exact Expr.mem_calls.mpr ⟨inner, inside, may⟩
  exact ⟨start, called, path.tail step⟩

/-- Whether an expression defines no function and calls only reached names. -/
structure Expr.StaysWithin (reached : String → Prop) (code : Expr) : Prop where
  /-- No function is defined. -/
  nothing : code.definesNothing = true
  /-- Calls go to reached names. -/
  calls : ∀ {name}, code.MayCall name → reached name

/-- The parts of an expression stay where it does. -/
theorem Expr.StaysWithin.part {reached : String → Prop} {code part : Expr}
    (stays : code.StaysWithin reached) (inside : part ∈ code.parts) : part.StaysWithin reached :=
  ⟨definesNothing_part stays.nothing inside, fun may => stays.calls (.inside inside may)⟩

/-- What stays within some names is of one form with itself, and so is what stands in it. -/
theorem Expr.StaysWithin.matched {reached : String → Prop} {code : Expr}
    (stays : code.StaysWithin reached) :
    Matched Eq (fun inner twin => inner.StaysWithin reached ∧ inner = twin) code code := by
  have inside : ∀ part ∈ code.parts, part.StaysWithin reached ∧ part = part :=
    fun part within => ⟨stays.part within, rfl⟩
  cases code with
  | literal value => exact .literal rfl
  | get name => exact .get name
  | define name value => exact .define name (inside value (by simp [parts]))
  | assign name value => exact .assign name (inside value (by simp [parts]))
  | binary operator left right =>
    exact .binary operator (inside left (by simp [parts])) (inside right (by simp [parts]))
  | unary operator operand => exact .unary operator (inside operand (by simp [parts]))
  | choose condition whenTrue whenFalse =>
    exact .choose (inside condition (by simp [parts])) (inside whenTrue (by simp [parts]))
      (inside whenFalse (by simp [parts]))
  | print value => exact .print (inside value (by simp [parts]))
  | function name parameters body => cases stays.nothing
  | call name arguments => exact .call name (List.forall₂_same.mpr inside)
  | gap gap => exact .gap gap

/-- Whether two tables agree on reached names, whose bodies stay within them. -/
structure Functions.AgreeOn (reached : String → Prop) (functions others : Functions) : Prop where
  /-- The tables have the same functions for these names. -/
  same : ∀ {name}, reached name → functions.find? name = others.find? name
  /-- Their bodies reach no other names. -/
  closed : ∀ {name function code}, reached name → functions.find? name = some function →
    code ∈ function.body → code.StaysWithin reached

namespace Eval

/-- Equal answers are alike. -/
theorem answerAlike_refl {α : Type} (answer : Except Fault α) :
    AnswerAlike Eq Eq answer answer := by
  cases answer with
  | ok value => exact .ok rfl
  | error fault => exact .error rfl

/-- Operators answer alike at equal operands. -/
theorem binary_alike_of_eq (operator : BinaryOp) {left right leftTwin rightTwin : Value}
    (same : left = leftTwin) (sameRight : right = rightTwin) :
    AnswerAlike Eq Eq (operator.apply left right) (operator.apply leftTwin rightTwin) := by
  rw [← same, ← sameRight]
  exact answerAlike_refl (operator.apply left right)

/-- Operators answer alike at an equal operand. -/
theorem unary_alike_of_eq (operator : UnaryOp) {operand twin : Value} (same : operand = twin) :
    AnswerAlike Eq Eq (operator.apply operand) (operator.apply twin) := by
  rw [← same]
  exact answerAlike_refl (operator.apply operand)

/-- Evaluations of what stays within some names are alike in tables that agree on these. -/
def agreeing {reached : String → Prop} {functions others : Functions}
    (agree : functions.AgreeOn reached others) : Likeness where
  expr code twin := code.StaysWithin reached ∧ code = twin
  value := Eq
  fault := Eq
  functions table other := table = functions ∧ other = others
  events := Eq
  matched := by
    rintro code _ ⟨stays, rfl⟩
    exact stays.matched
  valueRefl _ := rfl
  faultRefl _ := rfl
  binary := binary_alike_of_eq
  unary := unary_alike_of_eq
  choose := by
    rintro _ _ _ _ _ _ _ result _ rfl
    exact answerAlike_refl result.toBoolean
  print := by
    rintro result _ earlier _ rfl rfl
    rfl
  install related := by cases related.1.nothing
  find := by
    rintro name arguments twins ⟨stays, -⟩ table other ⟨rfl, rfl⟩
    have called := stays.calls (.here name arguments)
    rw [← agree.same called]
    cases found : table.find? name with
    | none => exact .none
    | some function =>
      exact .some ⟨rfl, List.forall₂_same.mpr fun code inside =>
        ⟨agree.closed called found inside, rfl⟩⟩

end Eval

/-- Equal tables are related by equality. -/
theorem Table.related_eq {α : Type} {table other : Table α} :
    table.Related Eq other ↔ table = other := by
  obtain ⟨entries⟩ := table
  obtain ⟨others⟩ := other
  have pairs : (fun entry twin : String × α => entry.1 = twin.1 ∧ entry.2 = twin.2) = Eq := by
    funext entry twin
    exact propext Prod.ext_iff.symm
  rw [Related, pairs, List.forall₂_eq_eq_eq, Table.mk.injEq]

/-- Functions to which an expression does not lead are of no concern to its evaluation, as long as
neither the expression nor the bodies to which it leads define functions. -/
theorem Eval.unreached_functions_irrelevant (budget : Nat) {code : Expr}
    {environment other : Environment} (locals : environment.locals = other.locals)
    (agree : ∀ {name}, environment.functions.LeadsTo code name →
      environment.functions.find? name = other.functions.find? name)
    (nothing : code.definesNothing = true)
    (bodies : ∀ {name function inner}, environment.functions.LeadsTo code name →
      environment.functions.find? name = some function → inner ∈ function.body →
      inner.definesNothing = true) :
    EndAlike Eq Eq
      (fun after last => after.environment.locals = last.environment.locals ∧
        after.events = last.events ∧ after.environment.functions = environment.functions ∧
        last.environment.functions = other.functions)
      (expr budget code { environment }) (expr budget code { environment := other }) := by
  have agreement : environment.functions.AgreeOn (environment.functions.LeadsTo code)
      other.functions :=
    ⟨agree, fun leads found inside =>
      ⟨bodies leads found inside, fun may => leads.body found inside may⟩⟩
  have related : (agreeing agreement).expr code code :=
    ⟨⟨nothing, fun may => Functions.leadsTo_of_mayCall may⟩, rfl⟩
  have paired : (agreeing agreement).Runs { environment } { environment := other } :=
    ⟨Table.related_eq.mpr locals, ⟨rfl, rfl⟩, rfl⟩
  refine (Likeness.steps_expr budget related _ _ paired).mono fun still => ?_
  exact ⟨Table.related_eq.mp still.locals, still.events, still.functions⟩

/-- A function that is missing in one table and calls back in the other, and another order of the
functions, do not show. -/
theorem Eval.unreached_functions_irrelevant_detour :
    let outer : Function := ⟨["x"], [.call "g" [.get "x"]]⟩
    let inner : Function := ⟨["y"], [.print (.get "y")]⟩
    let environment : Environment := { functions := ⟨[("f", outer), ("g", inner)]⟩ }
    let other : Environment :=
      { functions := ⟨[("h", ⟨[], [.call "f" []]⟩), ("g", inner), ("f", outer)]⟩ }
    let code := Expr.call "f" [.literal (.boolean true)]
    (∃ after, expr 4 code { environment } = .ok (.boolean true) after) ∧ EndAlike Eq Eq
      (fun after last => after.environment.locals = last.environment.locals ∧
        after.events = last.events ∧ after.environment.functions = environment.functions ∧
        last.environment.functions = other.functions)
      (expr 4 code { environment }) (expr 4 code { environment := other }) := by
  intro outer inner environment other code
  have leads : ∀ {name}, environment.functions.LeadsTo code name → name = "f" ∨ name = "g" := by
    rintro name ⟨start, called, path⟩
    have starts : Expr.calls [code] = ["f"] := by decide +kernel
    have first : environment.functions.callees "f" = ["g"] := by decide +kernel
    have second : environment.functions.callees "g" = [] := by decide +kernel
    induction path with
    | refl =>
      rw [starts] at called
      exact .inl (List.mem_singleton.mp called)
    | tail _ step ih =>
      unfold Functions.Calls at step
      rcases ih with rfl | rfl
      · exact .inr (by simpa [first] using step)
      · simp [second] at step
  refine ⟨⟨_, rfl⟩,
    unreached_functions_irrelevant 4 rfl (fun reached => ?_) rfl fun reached found inside => ?_⟩
  · rcases leads reached with rfl | rfl <;> rfl
  · rcases leads reached with rfl | rfl
    · cases found
      rw [List.mem_singleton.mp inside]
      rfl
    · cases found
      rw [List.mem_singleton.mp inside]
      rfl

end PrefixCalc
