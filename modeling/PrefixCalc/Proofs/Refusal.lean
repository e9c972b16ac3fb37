import PrefixCalc.Proofs.CallGraph

/-!
# Why definitions are refused

A definition is refused exactly if the new function would reach itself, whatever
functions are installed and whatever cycles they already have. The reason that is
given is the shortest way round: the function itself, then the first function that
it calls and that calls it, then a longer chain of calls
(`refused_exactly_if_recursive`).
-/

namespace PrefixCalc.Functions

open Relation

/-- Whether a name is the first of some names whose installed function calls a given name. -/
def IsFirstCaller (functions : Functions) (name : String) (names : List String) (first : String) :
    Prop :=
  ∃ before after, names = before ++ first :: after ∧ functions.Calls first name ∧
    ∀ earlier ∈ before, ¬ functions.Calls earlier name

variable {functions : Functions} {name first : String} {function : Function} {names : List String}

/-- Going through names in order finds the first one that calls a name. -/
theorem find?_eq_some_iff_isFirstCaller :
    names.find? (fun caller => name ∈ functions.callees caller) = some first ↔
      functions.IsFirstCaller name names first := by
  simp only [List.find?_eq_some_iff_append, IsFirstCaller, Calls, decide_eq_true_eq,
    Bool.not_eq_true', decide_eq_false_iff_not]
  constructor
  · rintro ⟨called, before, after, split, earlier⟩
    exact ⟨before, after, split, called, earlier⟩
  · rintro ⟨before, after, split, called, earlier⟩
    exact ⟨called, before, after, split, earlier⟩

/-- Going through names finds nothing exactly if none of them calls a name. -/
theorem find?_eq_none_iff_not_calls :
    names.find? (fun caller => name ∈ functions.callees caller) = none ↔
      ∀ caller ∈ names, ¬ functions.Calls caller name := by
  simp only [List.find?_eq_none, decide_eq_true_eq, Calls]

/-- There is only one first caller. -/
theorem IsFirstCaller.unique {other : String} (isFirst : functions.IsFirstCaller name names first)
    (isOther : functions.IsFirstCaller name names other) : first = other := by
  have found := find?_eq_some_iff_isFirstCaller.mpr isFirst
  have foundOther := find?_eq_some_iff_isFirstCaller.mpr isOther
  rw [found] at foundOther
  exact Option.some.inj foundOther

/-- If there is a first caller, not all names are silent. -/
theorem IsFirstCaller.not_forall (isFirst : functions.IsFirstCaller name names first) :
    ¬ ∀ caller ∈ names, ¬ functions.Calls caller name := by
  obtain ⟨before, after, rfl, called, -⟩ := isFirst
  intro silent
  exact silent first (List.mem_append_right before List.mem_cons_self) called

/-! ## The three reasons -/

/-- A function that calls itself is refused for that. -/
theorem recursion?_of_mem (self : name ∈ Expr.calls function.body) :
    functions.recursion? name function = some (.self name) := by
  simp only [recursion?, selfRecursion?, if_pos self, Option.orElse_eq_orElse, Option.orElse_some]

/-- Of a function that does not call itself, the functions that it calls are asked first, and then
the search is made. -/
theorem recursion?_of_not_mem (other : name ∉ Expr.calls function.body) :
    functions.recursion? name function =
      (((Expr.calls function.body).find? fun callee => name ∈ functions.callees callee).map
        (Recursion.dual name)).or
      ((functions.search name (Expr.calls function.body) (Expr.calls function.body)).map
        (Recursion.cross name)) := by
  have others : (Expr.calls function.body).filter (· ≠ name) = Expr.calls function.body := by
    refine List.filter_eq_self.mpr fun callee called => ?_
    have different : callee ≠ name := fun same => other (same ▸ called)
    exact decide_eq_true different
  simp only [recursion?, selfRecursion?, dualRecursion?, crossRecursion?, others, if_neg other,
    Option.orElse_eq_orElse, Option.orElse_eq_or, Option.none_or]

/-- A function that does not call itself is refused for the first one it calls that calls it. -/
theorem recursion?_of_isFirstCaller (other : name ∉ Expr.calls function.body)
    (isFirst : functions.IsFirstCaller name (Expr.calls function.body) first) :
    functions.recursion? name function = some (.dual name first) := by
  rw [recursion?_of_not_mem other, find?_eq_some_iff_isFirstCaller.mpr isFirst, Option.map_some,
    Option.some_or]

/-- Of a function that neither calls itself nor is called by what it calls, only the search can find
a reason to refuse it. -/
theorem recursion?_of_not_calls (other : name ∉ Expr.calls function.body)
    (silent : ∀ callee ∈ Expr.calls function.body, ¬ functions.Calls callee name) :
    functions.recursion? name function =
      (functions.search name (Expr.calls function.body) (Expr.calls function.body)).map
        (Recursion.cross name) := by
  rw [recursion?_of_not_mem other, find?_eq_none_iff_not_calls.mpr silent, Option.map_none,
    Option.none_or]

/-- A function calls itself, or is called by a first one of those it calls, or neither. -/
theorem reason_cases (functions : Functions) (name : String) (names : List String) :
    name ∈ names ∨ (name ∉ names ∧ ∃ first, functions.IsFirstCaller name names first) ∨
      (name ∉ names ∧ ∀ callee ∈ names, ¬ functions.Calls callee name) := by
  by_cases self : name ∈ names
  · exact .inl self
  · right
    cases found : names.find? fun caller => name ∈ functions.callees caller with
    | some first => exact .inl ⟨self, first, find?_eq_some_iff_isFirstCaller.mp found⟩
    | none => exact .inr ⟨self, find?_eq_none_iff_not_calls.mp found⟩

/-- A definition is refused exactly if the function calls itself or something that it calls leads to
it by one or more calls. -/
theorem isSome_recursion?_iff (functions : Functions) (name : String) (function : Function) :
    (functions.recursion? name function).isSome = true ↔
      name ∈ Expr.calls function.body ∨
        ∃ callee ∈ Expr.calls function.body, TransGen functions.Calls callee name := by
  rw [Option.isSome_iff_ne_none, ne_eq, recursion?_eq_none_iff]
  constructor
  · intro refused
    push Not at refused
    obtain ⟨callee, called, path⟩ := refused
    rcases reflTransGen_iff_eq_or_transGen.mp path with same | path
    · exact .inl (same ▸ called)
    · exact .inr ⟨callee, called, path⟩
  · rintro (self | ⟨callee, called, path⟩) unreached
    · exact unreached name self .refl
    · exact unreached callee called path.to_reflTransGen

/-- The recursion check is exact, whatever functions are installed: a definition is refused exactly
if the function would reach itself, and the reason is the first of the three kinds that applies. -/
theorem refused_exactly_if_recursive (functions : Functions) (name : String)
    (function : Function) :
    ((functions.recursion? name function).isSome = true ↔
      name ∈ Expr.calls function.body ∨
        ∃ callee ∈ Expr.calls function.body, TransGen functions.Calls callee name) ∧
    (functions.recursion? name function = some (.self name) ↔ name ∈ Expr.calls function.body) ∧
    (∀ other, functions.recursion? name function = some (.dual name other) ↔
      name ∉ Expr.calls function.body ∧
        functions.IsFirstCaller name (Expr.calls function.body) other) ∧
    ((∃ other, functions.recursion? name function = some (.cross name other)) ↔
      name ∉ Expr.calls function.body ∧
        (∀ callee ∈ Expr.calls function.body, ¬ functions.Calls callee name) ∧
        ∃ callee ∈ Expr.calls function.body, TransGen functions.Calls callee name) := by
  have refused := isSome_recursion?_iff functions name function
  refine ⟨refused, ?_⟩
  rcases reason_cases functions name (Expr.calls function.body) with
    self | ⟨other, first, isFirst⟩ | ⟨other, silent⟩
  · rw [recursion?_of_mem self]
    simp [self]
  · rw [recursion?_of_isFirstCaller other isFirst]
    have only : ∀ another, first = another ↔
        functions.IsFirstCaller name (Expr.calls function.body) another := by
      intro another
      exact ⟨fun same => same ▸ isFirst, fun isAnother => isFirst.unique isAnother⟩
    simp [other, only, isFirst.not_forall]
  · have none : ∀ another, ¬ functions.IsFirstCaller name (Expr.calls function.body) another :=
      fun another isAnother => isAnother.not_forall silent
    rw [recursion?_of_not_calls other silent] at refused ⊢
    rw [Option.isSome_map, or_iff_right other] at refused
    refine ⟨by simp [other], fun another => by simp [none], ?_⟩
    constructor
    · rintro ⟨culprit, found⟩
      obtain ⟨reached, searched, -⟩ := Option.map_eq_some_iff.mp found
      exact ⟨other, silent, refused.mp (Option.isSome_of_eq_some searched)⟩
    · rintro ⟨-, -, chain⟩
      obtain ⟨culprit, searched⟩ := Option.isSome_iff_exists.mp (refused.mpr chain)
      exact ⟨culprit, by rw [searched, Option.map_some]⟩

/-- Functions that call each other are no reason to refuse one that calls them. -/
example :
    let table : Functions := ⟨[("a", ⟨[], [.call "b" []]⟩), ("b", ⟨[], [.call "a" []]⟩)]⟩
    table.recursion? "f" ⟨[], [.call "a" []]⟩ = none ∧
      table.recursion? "b" ⟨[], [.call "c" [], .call "a" []]⟩ = some (.dual "b" "a") := by
  decide +kernel

end PrefixCalc.Functions
