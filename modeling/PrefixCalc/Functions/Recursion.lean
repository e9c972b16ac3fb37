import PrefixCalc.Expr.Calls
import PrefixCalc.Functions

/-!
# Refused recursion

A definition is refused if the new function could reach itself through calls. It
may call itself, call a function that calls it, or be called by one that it
reaches; the first of these that holds is reported. The last is found by a search
that visits functions in the order in which they are reached.
-/

namespace PrefixCalc.Functions

/-- The functions that an installed function calls; one that is not installed calls none. -/
def callees (functions : Functions) (name : String) : List String :=
  match functions.find? name with
  | some function => Expr.calls function.body
  | none => []

/-- The functions that installed functions call, with repetitions. -/
def allCallees (functions : Functions) : List String :=
  functions.entries.flatMap fun entry => Expr.calls entry.2.body

/-- What a function calls is part of what all functions call. -/
theorem callees_sublist_allCallees (functions : Functions) (name : String) :
    (functions.callees name).Sublist functions.allCallees := by
  unfold callees allCallees Table.find?
  induction functions.entries with
  | nil => simp
  | cons entry rest ih =>
    rw [List.flatMap_cons, Table.lookup_cons]
    by_cases same : name = entry.1
    · rw [if_pos same]
      exact List.sublist_append_left _ _
    · rw [if_neg same]
      exact ih.trans (List.sublist_append_right _ _)

/-- How many calls go to names that are not among the seen ones. -/
def unseenCalls (functions : Functions) (seen : List String) : Nat :=
  (functions.allCallees.filter fun name => name ∉ seen).length

/-- Names that a function calls, once seen, count as unseen no more. -/
theorem unseenCalls_append_le (functions : Functions) (seen : List String) (current : String) :
    let fresh := (functions.callees current).filter fun name => name ∉ seen
    functions.unseenCalls (seen ++ fresh) + fresh.length ≤ functions.unseenCalls seen := by
  intro fresh
  let unseen := functions.allCallees.filter fun name => name ∉ seen
  have still : functions.allCallees.filter (fun name => name ∉ seen ++ fresh) =
      unseen.filter fun name => !decide (name ∈ fresh) := by
    simp only [unseen, List.filter_filter]
    exact List.filter_congr fun name _ => by
      by_cases h : name ∈ seen <;> by_cases g : name ∈ fresh <;> simp [h, g]
  have gone : fresh.Sublist (unseen.filter fun name => decide (name ∈ fresh)) := by
    have inside : fresh.Sublist unseen := (functions.callees_sublist_allCallees current).filter _
    have kept : fresh.filter (fun name => decide (name ∈ fresh)) = fresh := by simp
    have filtered := inside.filter fun name => decide (name ∈ fresh)
    rwa [kept] at filtered
  have split := List.length_eq_countP_add_countP (l := unseen) fun name => decide (name ∈ fresh)
  have count := gone.length_le
  show (functions.allCallees.filter fun name => name ∉ seen ++ fresh).length + _ ≤ unseen.length
  rw [still]
  simp only [List.countP_eq_length_filter, Bool.not_eq_true, Bool.decide_eq_false] at split
  omega

/-- Visit the waiting names in order and add the names they call to the end of the queue, unless
they were seen before. The answer is the first visited function that calls `name`. -/
def search (functions : Functions) (name : String) (seen : List String) :
    List String → Option String
  | [] => none
  | current :: waiting =>
    if name ∈ functions.callees current then some current
    else
      let fresh := (functions.callees current).filter fun callee => callee ∉ seen
      search functions name (seen ++ fresh) (waiting ++ fresh)
termination_by waiting => functions.unseenCalls seen + waiting.length
decreasing_by
  have bound := functions.unseenCalls_append_le seen current
  simp only [List.length_append, List.length_cons] at *
  omega

/-- The recursion of a function that calls itself. -/
def selfRecursion? (name : String) (calls : List String) : Option Recursion :=
  if name ∈ calls then some (.self name) else none

/-- The recursion of a function with the first one, of those it calls, that calls it. -/
def dualRecursion? (functions : Functions) (name : String) (calls : List String) :
    Option Recursion :=
  ((calls.filter (· ≠ name)).find? fun other => name ∈ functions.callees other).map (.dual name ·)

/-- The recursion of a function with the first one, of those it reaches, that calls it. -/
def crossRecursion? (functions : Functions) (name : String) (calls : List String) :
    Option Recursion :=
  let others := calls.filter (· ≠ name)
  (functions.search name others others).map (.cross name ·)

/-- The recursion that defining a function would make, if any. -/
def recursion? (functions : Functions) (name : String) (function : Function) : Option Recursion :=
  let calls := Expr.calls function.body
  selfRecursion? name calls <|> functions.dualRecursion? name calls <|>
    functions.crossRecursion? name calls

end PrefixCalc.Functions
