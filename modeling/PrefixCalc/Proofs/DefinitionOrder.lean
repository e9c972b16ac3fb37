import Mathlib.Data.List.Perm.Basic
import PrefixCalc.Proofs.Reached

/-!
# The order of definitions

New functions may be defined in any order, forward references included. A table
without cycles accepts new functions one after another exactly if the table with all
of them has no cycle (`each_definition_cases`): what is accepted makes no cycle, and
what is refused would make one, which no new function takes away again. The table
with all of them is the same in every order (`find?_insertAll_of_perm`), and so is
the verdict.
-/

namespace PrefixCalc

open Relation

/-- The expression that defines a function under a name. -/
def Expr.definition (entry : String × Function) : Expr :=
  .function entry.1 entry.2.parameters entry.2.body

namespace Functions

/-- The table with some functions installed one after another. -/
def insertAll (functions : Functions) (entries : List (String × Function)) : Functions :=
  entries.foldl (fun table entry => table.insert entry.1 entry.2) functions

/-- Whether some functions have distinct names that the table does not have. -/
structure Lacks (functions : Functions) (entries : List (String × Function)) : Prop where
  /-- No two functions have one name. -/
  distinct : (entries.map Prod.fst).Nodup
  /-- The table has none of the names. -/
  missing : ∀ entry ∈ entries, functions.find? entry.1 = none

variable {functions : Functions} {entries others : List (String × Function)}

/-- After the first of some new functions the others are still new. -/
theorem Lacks.insert {entry : String × Function} (lacks : functions.Lacks (entry :: entries)) :
    Lacks (functions.insert entry.1 entry.2) entries := by
  have names := lacks.distinct
  rw [List.map_cons, List.nodup_cons] at names
  refine ⟨names.2, fun other inside => ?_⟩
  have different : other.1 ≠ entry.1 :=
    fun same => names.1 (same ▸ List.mem_map_of_mem inside)
  rw [Table.find?_insert, if_neg different]
  exact lacks.missing other (List.mem_cons_of_mem entry inside)

/-- New functions are new in every order. -/
theorem Lacks.perm (lacks : functions.Lacks entries) (order : entries.Perm others) :
    functions.Lacks others :=
  ⟨(order.map Prod.fst).nodup_iff.mp lacks.distinct,
    fun entry inside => lacks.missing entry (order.mem_iff.mpr inside)⟩

/-- A table with new functions has these and those that it had before. -/
theorem find?_insertAll (lacks : functions.Lacks entries) {name : String} {function : Function} :
    (functions.insertAll entries).find? name = some function ↔
      (name, function) ∈ entries ∨ functions.find? name = some function := by
  induction entries generalizing functions with
  | nil => simp [insertAll]
  | cons entry entries ih =>
    have missing := lacks.missing entry List.mem_cons_self
    have later : (functions.insertAll (entry :: entries)).find? name = some function ↔
        (name, function) ∈ entries ∨
          (functions.insert entry.1 entry.2).find? name = some function :=
      ih lacks.insert
    rw [later, Table.find?_insert, List.mem_cons, Prod.ext_iff]
    by_cases same : name = entry.1
    · rw [if_pos same, same, missing]
      simp only [Option.some.injEq, true_and, reduceCtorEq, or_false]
      rw [or_comm, eq_comm]
    · rw [if_neg same]
      simp only [same, false_and, false_or]

/-- New functions make one table in every order. -/
theorem find?_insertAll_of_perm (lacks : functions.Lacks entries) (order : entries.Perm others)
    (name : String) :
    (functions.insertAll others).find? name = (functions.insertAll entries).find? name := by
  ext function
  rw [find?_insertAll (lacks.perm order), find?_insertAll lacks, order.mem_iff]

/-- Tables with the same functions for the same names have the same cycles. -/
theorem Acyclic.congr {twin : Functions} (acyclic : functions.Acyclic)
    (same : ∀ name, twin.find? name = functions.find? name) : twin.Acyclic := by
  have calls : twin.Calls = functions.Calls := by
    funext caller callee
    unfold Calls callees
    rw [same caller]
  intro name cycle
  rw [calls] at cycle
  exact acyclic name cycle

/-! ## Cycles of calls -/

/-- Installing a new function takes no calls away. -/
theorem calls_le_insert {name : String} (missing : functions.find? name = none)
    (function : Function) : functions.Calls ≤ Calls (functions.insert name function) := by
  intro caller callee called
  rw [calls_insert]
  split
  · rename_i same
    unfold Calls callees at called
    rw [same, missing] at called
    exact absurd called List.not_mem_nil
  · exact called

/-- A table without cycles had none before new functions were installed. -/
theorem Acyclic.of_insertAll (lacks : functions.Lacks entries)
    (acyclic : (functions.insertAll entries).Acyclic) : functions.Acyclic := by
  induction entries generalizing functions with
  | nil => exact acyclic
  | cons entry entries ih =>
    have missing := lacks.missing entry List.mem_cons_self
    intro name cycle
    apply ih lacks.insert acyclic name
    exact TransGen.mono (calls_le_insert missing entry.2) name name cycle

/-- What is refused would make a cycle. -/
theorem not_acyclic_insert_of_refused {name : String} {function : Function} {recursion : Recursion}
    (missing : functions.find? name = none)
    (refused : functions.recursion? name function = some recursion) :
    ¬ Acyclic (functions.insert name function) := by
  intro acyclic
  have unreached : functions.recursion? name function = none := by
    rw [recursion?_eq_none_iff]
    intro callee called path
    have first : Calls (functions.insert name function) name callee := by
      rw [calls_insert, if_pos rfl]
      exact called
    have back : ReflTransGen (Calls (functions.insert name function)) callee name :=
      ReflTransGen.mono (calls_le_insert missing function) callee name path
    exact acyclic name (.head' first back)
  rw [unreached] at refused
  cases refused

end Functions

namespace Eval

/-- Evaluating a definition installs the function, unless it would reach itself. -/
theorem expr_definition_apply (budget : Nat) (entry : String × Function) (run : Run) :
    expr (budget + 1) (Expr.definition entry) run =
      match run.environment.functions.recursion? entry.1 entry.2 with
      | some recursion => .error (.recursive recursion) (run.note (.trace (.rejected recursion)))
      | none => .ok (.boolean true)
          ((run.withFunctions (run.environment.functions.insert entry.1 entry.2)).note
            (.trace (.installed entry.1 entry.2.parameters))) :=
  install_apply entry.1 entry.2 run

/-- Definitions of new functions, one after another, are all accepted if the table with all of them
has no cycle of calls, and make that table then. Otherwise one of them is refused. -/
theorem each_definition_cases (budget : Nat) {entries : List (String × Function)} {run : Run}
    (acyclic : run.environment.functions.Acyclic)
    (lacks : run.environment.functions.Lacks entries) :
    ((run.environment.functions.insertAll entries).Acyclic ∧
      ∃ values after,
        each (expr (budget + 1)) (entries.map Expr.definition) run = .ok values after ∧
        after.environment.functions = run.environment.functions.insertAll entries) ∨
    (¬ (run.environment.functions.insertAll entries).Acyclic ∧
      ∃ recursion after, each (expr (budget + 1)) (entries.map Expr.definition) run =
        .error (.recursive recursion) after) := by
  induction entries generalizing run with
  | nil => exact .inl ⟨acyclic, [], run, rfl, rfl⟩
  | cons entry entries ih =>
    have missing := lacks.missing entry List.mem_cons_self
    have first := expr_definition_apply budget entry run
    cases refused : run.environment.functions.recursion? entry.1 entry.2 with
    | some recursion =>
      rw [refused] at first
      right
      -- The cycle that this function would make is one of the table with all of them too.
      constructor
      · intro whole
        exact Functions.not_acyclic_insert_of_refused missing refused
          (Functions.Acyclic.of_insertAll lacks.insert whole)
      · exact ⟨recursion, _, bind_of_error first⟩
    | none =>
      rw [refused] at first
      have step : each (expr (budget + 1)) ((entry :: entries).map Expr.definition) run = _ :=
        bind_of_ok first
      let next := (run.withFunctions (run.environment.functions.insert entry.1 entry.2)).note
        (.trace (.installed entry.1 entry.2.parameters))
      have later := @ih next (acyclic.insert refused) lacks.insert
      rcases later with
        ⟨whole, values, after, accepted, made⟩ | ⟨cyclic, recursion, after, failed⟩
      · exact .inl ⟨whole, _, after, step.trans (bind_of_ok accepted), made⟩
      · exact .inr ⟨cyclic, recursion, after, step.trans (bind_of_error failed)⟩

/-- New functions may be defined in any order. If all definitions are accepted one after another,
they are in every other order, and the tables have the same functions afterwards; if one is refused,
then one is in every other order. -/
theorem definitions_in_any_order {run other : Run}
    (reached : Functions.Reached (fun _ => True) run.environment.functions)
    (same : other.environment.functions = run.environment.functions)
    {definitions reordered : List (String × Function)} (order : definitions.Perm reordered)
    (distinct : (definitions.map Prod.fst).Nodup)
    (missing : ∀ entry ∈ definitions, run.environment.functions.contains entry.1 = false)
    (budget otherBudget : Nat) :
    (∀ values after,
      each (expr (budget + 1)) (definitions.map Expr.definition) run = .ok values after →
      ∃ otherValues last,
        each (expr (otherBudget + 1)) (reordered.map Expr.definition) other =
          .ok otherValues last ∧
        ∀ name, last.environment.functions.find? name = after.environment.functions.find? name) ∧
    ∀ recursion after,
      each (expr (budget + 1)) (definitions.map Expr.definition) run =
        .error (.recursive recursion) after →
      ∃ otherRecursion last,
        each (expr (otherBudget + 1)) (reordered.map Expr.definition) other =
          .error (.recursive otherRecursion) last := by
  have acyclic := reached.holds Functions.acyclic_discipline Functions.acyclic_empty
  have lacks : run.environment.functions.Lacks definitions :=
    ⟨distinct, fun entry inside => by simpa [Table.contains] using missing entry inside⟩
  have tables := Functions.find?_insertAll_of_perm lacks order
  have verdict := each_definition_cases budget acyclic lacks
  have otherVerdict := @each_definition_cases otherBudget reordered other (by rwa [same])
    (by rw [same]; exact lacks.perm order)
  rw [same] at otherVerdict
  constructor
  · intro values after accepted
    rcases verdict with ⟨whole, _, _, ended, made⟩ | ⟨-, _, _, failed⟩
    · rw [accepted] at ended
      cases ended
      rcases otherVerdict with ⟨-, otherValues, last, otherEnded, otherMade⟩ | ⟨cyclic, -⟩
      · refine ⟨otherValues, last, otherEnded, fun name => ?_⟩
        rw [otherMade, made]
        exact tables name
      · exact absurd (whole.congr tables) cyclic
    · rw [accepted] at failed
      cases failed
  · intro recursion after refused
    rcases verdict with ⟨-, _, _, ended, -⟩ | ⟨cyclic, -⟩
    · rw [refused] at ended
      cases ended
    · rcases otherVerdict with ⟨whole, -⟩ | ⟨-, otherRefused⟩
      · exact absurd (whole.congr fun name => (tables name).symm) cyclic
      · exact otherRefused

/-- A function may be defined before or after the one that it calls. -/
theorem definitions_in_any_order_forward :
    let caller : String × Function := ("f", ⟨["x"], [.call "g" [.get "x"]]⟩)
    let called : String × Function := ("g", ⟨["y"], [.get "y"]⟩)
    let forward := each (expr 1) ([caller, called].map Expr.definition)
    let backward := each (expr 1) ([called, caller].map Expr.definition)
    (stateAfter forward {}).environment.functions.names = ["f", "g"] ∧
    (∀ values after, forward {} = .ok values after →
      ∃ otherValues last, backward {} = .ok otherValues last ∧
        ∀ name, last.environment.functions.find? name = after.environment.functions.find? name) ∧
    ∀ recursion after, forward {} = .error (.recursive recursion) after →
      ∃ otherRecursion last, backward {} = .error (.recursive otherRecursion) last := by
  intro caller called forward backward
  refine ⟨by decide +kernel, ?_⟩
  have order : [caller, called].Perm [called, caller] := .swap called caller []
  exact definitions_in_any_order .empty rfl order (by decide) (fun _ _ => rfl) 0 0

end Eval

end PrefixCalc
