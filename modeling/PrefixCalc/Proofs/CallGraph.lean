import Mathlib.Data.Finset.Card
import Mathlib.Logic.Relation
import PrefixCalc.Functions.Recursion

/-!
# The call graph

Installed functions call names, which need not be installed. This graph decides
whether a definition is refused: `recursion?_eq_none_iff` says that a definition
passes exactly if nothing that it calls leads back to the new name, whatever the
installed functions are. Installing what passes keeps a graph without cycles free
of them (`Acyclic.insert`). In such a graph calls can be followed only finitely
often (`Acyclic.wellFounded`).
-/

namespace PrefixCalc.Functions

open Relation

/-- Whether an installed function calls a name. -/
def Calls (functions : Functions) (caller callee : String) : Prop :=
  callee ∈ functions.callees caller

/-- Whether no name leads back to itself by one or more calls. -/
def Acyclic (functions : Functions) : Prop :=
  ∀ name, ¬ TransGen functions.Calls name name

/-! ## The search -/

/-- Whether some names include what they call and call a given name nowhere. -/
def ClosedWithout (functions : Functions) (name : String) (names : List String) : Prop :=
  ∀ node ∈ names, ¬ functions.Calls node name ∧ ∀ callee, functions.Calls node callee →
    callee ∈ names

/-- A search that finds nothing has seen everything that can be reached from the names it started
with, provided that what was seen and does not wait was visited before. -/
theorem exists_closedWithout_of_search_eq_none {functions : Functions} {name : String}
    {seen waiting : List String}
    (visited : ∀ node ∈ seen, node ∈ waiting ∨
      (¬ functions.Calls node name ∧ ∀ callee, functions.Calls node callee → callee ∈ seen))
    (nothing : functions.search name seen waiting = none) :
    ∃ names, seen ⊆ names ∧ functions.ClosedWithout name names := by
  fun_induction search functions name seen waiting with
  | case1 seen =>
    refine ⟨seen, List.Subset.refl seen, fun node inside => ?_⟩
    exact (visited node inside).resolve_left List.not_mem_nil
  | case2 seen current waiting found => simp at nothing
  | case3 seen current waiting missing fresh ih =>
    have grown : ∀ callee, functions.Calls current callee → callee ∈ seen ++ fresh := by
      intro callee called
      by_cases old : callee ∈ seen
      · exact List.mem_append_left fresh old
      · exact List.mem_append_right seen (List.mem_filter.mpr ⟨called, by simpa using old⟩)
    have still : ∀ node ∈ seen ++ fresh, node ∈ waiting ++ fresh ∨ (¬ functions.Calls node name ∧
        ∀ callee, functions.Calls node callee → callee ∈ seen ++ fresh) := by
      intro node inside
      rcases List.mem_append.mp inside with old | new
      · rcases visited node old with waits | ⟨avoids, calls⟩
        · rcases List.mem_cons.mp waits with rfl | later
          · exact .inr ⟨missing, grown⟩
          · exact .inl (List.mem_append_left fresh later)
        · exact .inr ⟨avoids, fun callee called => List.mem_append_left fresh (calls callee called)⟩
      · exact .inl (List.mem_append_right waiting new)
    obtain ⟨names, subset, closed⟩ := ih still nothing
    exact ⟨names, fun node inside => subset (List.mem_append_left fresh inside), closed⟩

/-- What a search finds calls the name and can be reached from the names that wait. -/
theorem reached_of_search_eq_some {functions : Functions} {name other : String}
    {seen waiting : List String} (found : functions.search name seen waiting = some other) :
    functions.Calls other name ∧ ∃ start ∈ waiting, ReflTransGen functions.Calls start other := by
  fun_induction search functions name seen waiting with
  | case1 seen => simp at found
  | case2 seen current waiting called =>
    obtain rfl := Option.some.inj found
    exact ⟨called, current, List.mem_cons_self, .refl⟩
  | case3 seen current waiting missing fresh ih =>
    obtain ⟨called, start, waits, path⟩ := ih found
    refine ⟨called, ?_⟩
    rcases List.mem_append.mp waits with later | new
    · exact ⟨start, List.mem_cons_of_mem current later, path⟩
    · exact ⟨current, List.mem_cons_self, .head (List.mem_filter.mp new).1 path⟩

/-- From names that include what they call, and call a given name nowhere, no calls lead to it. -/
theorem ClosedWithout.not_reaches {functions : Functions} {name start : String}
    {names : List String} (closed : functions.ClosedWithout name names) (inside : start ∈ names)
    (different : start ≠ name) : ¬ ReflTransGen functions.Calls start name := by
  intro path
  rcases ReflTransGen.cases_head path with same | ⟨next, called, rest⟩
  · exact different same
  · induction rest using ReflTransGen.head_induction_on generalizing start with
    | refl => exact (closed start inside).1 called
    | @head next later step rest ih =>
      have kept := (closed start inside).2 next called
      have other : next ≠ name := fun same => (closed start inside).1 (same ▸ called)
      exact ih kept other (.head step rest) step

/-- A search that starts with names other than `name` finds nothing exactly if none of them leads to
it. -/
theorem search_eq_none_iff {functions : Functions} {name : String} {names : List String}
    (different : name ∉ names) :
    functions.search name names names = none ↔
      ∀ start ∈ names, ¬ ReflTransGen functions.Calls start name := by
  constructor
  · intro nothing start inside
    obtain ⟨reached, subset, closed⟩ :=
      exists_closedWithout_of_search_eq_none (fun _ inside => .inl inside) nothing
    exact closed.not_reaches (subset inside) fun same => different (same ▸ inside)
  · intro unreached
    by_contra found
    obtain ⟨other, found⟩ := Option.ne_none_iff_exists'.mp found
    obtain ⟨called, start, inside, path⟩ := reached_of_search_eq_some found
    exact unreached start inside (path.tail called)

/-- A definition is refused exactly if something that it calls leads back to its name. -/
theorem recursion?_eq_none_iff (functions : Functions) (name : String) (function : Function) :
    functions.recursion? name function = none ↔
      ∀ callee ∈ Expr.calls function.body, ¬ ReflTransGen functions.Calls callee name := by
  have others : name ∉ (Expr.calls function.body).filter (· ≠ name) := by simp
  simp only [recursion?, Option.orElse_eq_none, crossRecursion?, Option.map_eq_none_iff,
    search_eq_none_iff others, dualRecursion?, selfRecursion?]
  constructor
  · rintro ⟨self, -, cross⟩ callee called path
    have different : callee ≠ name := by
      rintro rfl
      simp [called] at self
    exact cross callee (by simp [called, different]) path
  · intro unreached
    refine ⟨?_, ?_, fun start inside => unreached start (List.mem_filter.mp inside).1⟩
    · rw [if_neg fun self => unreached name self .refl]
    · refine List.find?_eq_none.mpr fun other inside => ?_
      have called := (List.mem_filter.mp inside).1
      have silent : ¬ functions.Calls other name :=
        fun back => unreached other called (.single back)
      exact decide_eq_true_iff.not.mpr silent

/-- A search depends on who calls whom alone. -/
theorem search_congr {functions others : Functions}
    (same : ∀ caller, functions.callees caller = others.callees caller) (name : String)
    (seen waiting : List String) :
    functions.search name seen waiting = others.search name seen waiting := by
  fun_induction search functions name seen waiting with
  | case1 seen => rw [search]
  | case2 seen current waiting found =>
    rw [same current] at found
    rw [search, if_pos found]
  | case3 seen current waiting missing fresh ih =>
    rw [ih]
    unfold fresh
    rw [same current] at missing ⊢
    rw [search, if_neg missing]

/-- What is refused depends on who calls whom alone. -/
theorem recursion?_congr {functions others : Functions}
    (same : ∀ caller, functions.callees caller = others.callees caller) (name : String)
    {function twin : Function} (calls : Expr.calls function.body = Expr.calls twin.body) :
    functions.recursion? name function = others.recursion? name twin := by
  simp only [recursion?, dualRecursion?, crossRecursion?, calls, same,
    search_congr same name]

/-! ## Installing functions -/

/-- A function that was installed makes the calls of its body, and every other name the calls that
it made before. -/
theorem calls_insert (functions : Functions) (name : String) (function : Function)
    (caller callee : String) :
    Calls (functions.insert name function) caller callee ↔
      if caller = name then callee ∈ Expr.calls function.body
      else functions.Calls caller callee := by
  unfold Calls callees
  rw [Table.find?_insert]
  by_cases same : caller = name
  · rw [if_pos same, if_pos same]
  · rw [if_neg same, if_neg same]

/-- The empty table has no calls, so no cycles. -/
theorem acyclic_empty : Acyclic ∅ := by
  intro name cycle
  obtain ⟨callee, called, -⟩ := TransGen.head'_iff.mp cycle
  exact List.not_mem_nil called

/-- Calls that lead to a name lead to it already before a function of that name is installed. -/
theorem reaches_of_reaches_insert {functions : Functions} {name start : String}
    {function : Function}
    (path : ReflTransGen (Calls (functions.insert name function)) start name) :
    ReflTransGen functions.Calls start name := by
  induction path using ReflTransGen.head_induction_on with
  | refl => exact .refl
  | @head caller callee called rest ih =>
    rw [calls_insert] at called
    split at called
    · rename_i same
      exact same ▸ .refl
    · exact .head called ih

/-- After a function is installed, calls from one name to another are old ones or pass through
it. -/
theorem reaches_or_through_of_insert {functions : Functions} {name first last : String}
    {function : Function}
    (path : TransGen (Calls (functions.insert name function)) first last) :
    TransGen functions.Calls first last ∨
      (ReflTransGen (Calls (functions.insert name function)) first name ∧
        TransGen (Calls (functions.insert name function)) name last) := by
  induction path using TransGen.head_induction_on with
  | @single first called =>
    by_cases same : first = name
    · subst same
      exact .inr ⟨.refl, .single called⟩
    · rw [calls_insert, if_neg same] at called
      exact .inl (.single called)
  | @head first next called rest ih =>
    by_cases same : first = name
    · subst same
      exact .inr ⟨.refl, .head called rest⟩
    · rcases ih with old | ⟨before, after⟩
      · rw [calls_insert, if_neg same] at called
        exact .inl (.head called old)
      · exact .inr ⟨.head called before, after⟩

/-- Installing a function that is not refused makes no cycle. -/
theorem Acyclic.insert {functions : Functions} {name : String} {function : Function}
    (acyclic : functions.Acyclic) (accepted : functions.recursion? name function = none) :
    Acyclic (functions.insert name function) := by
  intro start cycle
  rcases reaches_or_through_of_insert cycle with old | ⟨before, after⟩
  · exact acyclic start old
  · have around := TransGen.trans_left after before
    obtain ⟨callee, called, back⟩ := TransGen.head'_iff.mp around
    rw [calls_insert, if_pos rfl] at called
    exact (functions.recursion?_eq_none_iff name function).mp accepted callee called
      (reaches_of_reaches_insert back)

/-! ## Following calls -/

open Classical in
/-- The names that functions call and that a name leads to. -/
noncomputable def reach (functions : Functions) (name : String) : Finset String :=
  functions.allCallees.toFinset.filter (TransGen functions.Calls name)

/-- The reach of a name holds what is called and what the name leads to. -/
theorem mem_reach {functions : Functions} {start name : String} :
    name ∈ functions.reach start ↔
      name ∈ functions.allCallees ∧ TransGen functions.Calls start name := by
  simp [reach]

/-- Without cycles a call leads to a name that leads to less. -/
theorem Acyclic.reach_ssubset {functions : Functions} {caller callee : String}
    (acyclic : functions.Acyclic) (called : functions.Calls caller callee) :
    functions.reach callee ⊂ functions.reach caller := by
  have subset : functions.reach callee ⊆ functions.reach caller := by
    intro name inside
    obtain ⟨listed, path⟩ := mem_reach.mp inside
    exact mem_reach.mpr ⟨listed, .head called path⟩
  have listed := (functions.callees_sublist_allCallees caller).subset called
  have reached := mem_reach.mpr ⟨listed, .single called⟩
  refine (Finset.ssubset_iff_of_subset subset).mpr ⟨callee, reached, ?_⟩
  exact fun inside => acyclic callee (mem_reach.mp inside).2

/-- Without cycles calls can be followed only finitely often. -/
theorem Acyclic.wellFounded {functions : Functions} (acyclic : functions.Acyclic) :
    WellFounded fun callee caller => functions.Calls caller callee :=
  Subrelation.wf (fun called => Finset.card_lt_card (acyclic.reach_ssubset called))
    (measure fun name => (functions.reach name).card).wf

end PrefixCalc.Functions
