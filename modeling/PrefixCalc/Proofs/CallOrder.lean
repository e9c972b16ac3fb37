import Mathlib.Data.List.Nodup
import Mathlib.Logic.Function.Iterate
import PrefixCalc.Proofs.Parts

/-!
# The order of calls

The functions that expressions call are listed in the order of the text. A walk
down the trees says what that order is (`Expr.walkAll`), with a name for every
call. `Expr.calls` keeps a list of expressions that wait instead; it ends, since
every round takes one expression away (`Expr.iterate_visitLast`), and it gives the
names of the walk, each at its first place (`Expr.collectCalls_eq_eraseDups`).
-/

namespace PrefixCalc.Expr

/-! ## The walk -/

mutual

/-- The names called in an expression, in the order of the text: a call stands before the calls in
its arguments, and the bodies of definitions are left out. -/
def walk : Expr → List String
  | .define _ value | .assign _ value | .print value | .unary _ value => walk value
  | .binary _ left right => walk left ++ walk right
  | .choose condition whenTrue whenFalse => walk condition ++ walk whenTrue ++ walk whenFalse
  | .call name arguments => name :: walkAll arguments
  | .literal _ | .get _ | .function .. | .gap _ => []

/-- The names called in some expressions, one expression after another. -/
def walkAll : List Expr → List String
  | [] => []
  | first :: rest => walk first ++ walkAll rest

end

/-- The name that an expression itself calls. -/
def ownCall : Expr → List String
  | .call name _ => [name]
  | _ => []

/-- Walks over lists follow each other. -/
theorem walkAll_append (first second : List Expr) :
    walkAll (first ++ second) = walkAll first ++ walkAll second := by
  induction first with
  | nil => rfl
  | cons head tail ih => rw [List.cons_append, walkAll, ih, walkAll, List.append_assoc]

/-- A walk meets an expression before its parts. -/
theorem walk_eq_ownCall_append (code : Expr) :
    code.walk = code.ownCall ++ walkAll code.parts := by
  cases code <;> simp [walk, walkAll, ownCall, parts]

/-! ## First places -/

variable {names : List String}

/-- Names that are noted one by one are noted at their first places. -/
theorem addName_eraseDups (seen : List String) (name : String) :
    addName seen.eraseDups name = (seen ++ [name]).eraseDups := by
  rw [List.eraseDups_append, addName]
  by_cases known : name ∈ seen
  · rw [if_pos (List.mem_eraseDups.mpr known)]
    simp [List.removeAll, known]
  · rw [if_neg fun listed => known (List.mem_eraseDups.mp listed)]
    simp [List.removeAll, known, List.eraseDups_cons]

/-- Visiting an expression notes the name that it calls itself. -/
theorem noteCall_eraseDups (seen : List String) (code : Expr) :
    noteCall seen.eraseDups code = (seen ++ code.ownCall).eraseDups := by
  cases code with
  | call name arguments => exact addName_eraseDups seen name
  | _ => exact congrArg List.eraseDups (List.append_nil seen).symm

/-- The names met before and those of the walk over what waits are noted at their first places. -/
theorem collectCalls_eq_eraseDups {seen : List String} {waiting : List Expr}
    (noted : names = seen.eraseDups) :
    collectCalls names waiting = (seen ++ walkAll waiting).eraseDups := by
  fun_induction collectCalls names waiting generalizing seen with
  | case1 names => rw [noted, walkAll, List.append_nil]
  | case2 names code waiting ih =>
    -- The walk over the whole is the call at its root, then the walk over what waits next.
    have rest : walkAll (code :: waiting) = code.ownCall ++ walkAll (code.parts ++ waiting) := by
      rw [walkAll, walk_eq_ownCall_append, walkAll_append, List.append_assoc]
    have now : noteCall names code = (seen ++ code.ownCall).eraseDups := by
      rw [noted, noteCall_eraseDups]
    rw [ih now, rest, List.append_assoc]

/-- A name that is noted is not noted twice. -/
theorem nodup_noteCall (distinct : names.Nodup) (code : Expr) : (noteCall names code).Nodup := by
  cases code with
  | call name arguments =>
    rw [noteCall, addName]
    split
    · exact distinct
    · rename_i fresh
      rw [← List.concat_eq_append]
      exact distinct.concat fresh
  | _ => exact distinct

/-- Distinct names stay distinct all along the walk. -/
theorem nodup_collectCalls (distinct : names.Nodup) (waiting : List Expr) :
    (collectCalls names waiting).Nodup := by
  fun_induction collectCalls names waiting with
  | case1 names => exact distinct
  | case2 names code waiting ih => exact ih (nodup_noteCall distinct code)

/-! ## Rounds -/

/-- One round over a stack whose top is at its end: the top is taken off, its call is noted, and its
parts are put on, the first one last. Without expressions nothing happens. -/
def visitLast (state : List String × List Expr) : List String × List Expr :=
  match state.2.getLast? with
  | none => state
  | some code => (noteCall state.1 code, state.2.dropLast ++ code.parts.reverse)

/-- A round replaces the expression on top by its parts. -/
theorem visitLast_reverse_cons (names : List String) (code : Expr) (waiting : List Expr) :
    visitLast (names, (code :: waiting).reverse) =
      (noteCall names code, (code.parts ++ waiting).reverse) := by
  simp [visitLast]

/-- A round takes one expression away. -/
theorem totalSize_cons (code : Expr) (waiting : List Expr) :
    totalSize (code :: waiting) = totalSize (code.parts ++ waiting) + 1 := by
  rw [totalSize_append, totalSize, size_eq_succ_totalSize_parts]
  omega

/-- After one round for every expression nothing waits, and the names are those of the walk. -/
theorem iterate_visitLast (names : List String) (waiting : List Expr) :
    visitLast^[totalSize waiting] (names, waiting.reverse) = (collectCalls names waiting, []) := by
  fun_induction collectCalls names waiting with
  | case1 names => rfl
  | case2 names code waiting ih =>
    rw [totalSize_cons, Function.iterate_succ_apply, visitLast_reverse_cons, ih]

/-- Before that something waits. -/
theorem iterate_visitLast_ne_nil {rounds : Nat} {waiting : List Expr}
    (earlier : rounds < totalSize waiting) :
    (visitLast^[rounds] (names, waiting.reverse)).2 ≠ [] := by
  induction rounds generalizing names waiting with
  | zero =>
    intro nothing
    rw [List.reverse_eq_nil_iff.mp nothing] at earlier
    exact absurd earlier (Nat.lt_irrefl 0)
  | succ rounds ih =>
    cases waiting with
    | nil => exact absurd earlier (Nat.not_lt_zero _)
    | cons code waiting =>
      rw [totalSize_cons] at earlier
      rw [Function.iterate_succ_apply, visitLast_reverse_cons]
      exact ih (Nat.lt_of_succ_lt_succ earlier)

/-- The names that are listed for some expressions are those of the walk over their trees, each once
and at its first place, and the stack is empty after one round for every expression. -/
theorem calls_follow_text (body : List Expr) :
    visitLast^[totalSize body] ([], body.reverse) = (calls body, []) ∧
    (∀ rounds < totalSize body, (visitLast^[rounds] ([], body.reverse)).2 ≠ []) ∧
    calls body = (walkAll body).eraseDups ∧
    (calls body).Nodup ∧
    ∀ name, name ∈ calls body ↔ ∃ code ∈ body, code.MayCall name := by
  refine ⟨iterate_visitLast [] body, fun rounds => iterate_visitLast_ne_nil, ?_, ?_, fun name => ?_⟩
  · exact @collectCalls_eq_eraseDups [] [] body rfl
  · exact nodup_collectCalls List.nodup_nil body
  · exact mem_calls

/-- A call comes before those in its arguments, and a second call of a name is not listed. -/
example :
    let inner := Expr.call "g" [.call "h" [], .function "k" [] [.call "m" []]]
    calls [.choose (.call "f" [inner]) (.call "g" []) (.call "a" [])] = ["f", "g", "h", "a"] := by
  decide +kernel

end PrefixCalc.Expr
