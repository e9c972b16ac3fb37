import PrefixCalc.Proofs.Refusal

/-!
# The function that is blamed

The search for a longer way round visits functions in the order in which they are
reached. At any time the names that wait are the rest of one layer and then a part of
the next one, where a layer holds the names that can be reached by equally many calls;
all nearer names were visited before (`Layers`). So the function that is blamed is one
of the nearest that call the new name. It is the first function in the list that calls
it, if there is one: the search and the shorter check agree
(`blames_nearest_caller`).
-/

namespace PrefixCalc.Functions

open Relation

/-! ## Chains of calls -/

/-- Whether so many steps lead from one of some names to a name. -/
inductive ChainFrom (step : String → String → Prop) (starts : List String) : Nat → String → Prop
  /-- No step leads to a name that is there from the start. -/
  | start {name : String} : name ∈ starts → ChainFrom step starts 0 name
  /-- One step more leads on. -/
  | call {length : Nat} {caller callee : String} : ChainFrom step starts length caller →
      step caller callee → ChainFrom step starts (length + 1) callee

/-- Whether an installed function calls a name other than a given one. -/
def CallsBeside (functions : Functions) (name caller callee : String) : Prop :=
  functions.Calls caller callee ∧ callee ≠ name

variable {functions : Functions} {name other : String} {starts seen now next waiting : List String}
  {distance : Nat}

/-- Some chain leads to a name exactly if steps lead to it from one of the first names. -/
theorem exists_chainFrom_iff {step : String → String → Prop} :
    (∃ length, ChainFrom step starts length other) ↔
      ∃ start ∈ starts, ReflTransGen step start other := by
  constructor
  · rintro ⟨length, chain⟩
    induction chain with
    | start inside => exact ⟨_, inside, .refl⟩
    | call _ called ih =>
      obtain ⟨start, inside, path⟩ := ih
      exact ⟨start, inside, path.tail called⟩
  · rintro ⟨start, inside, path⟩
    induction path with
    | refl => exact ⟨0, .start inside⟩
    | tail _ called ih =>
      obtain ⟨length, chain⟩ := ih
      exact ⟨length + 1, chain.call called⟩

/-- A chain beside a name does not end in it. -/
theorem ChainFrom.ne_of_beside (different : name ∉ starts)
    (chain : ChainFrom (functions.CallsBeside name) starts distance other) : other ≠ name := by
  cases chain with
  | start inside => exact fun same => different (same ▸ inside)
  | call _ called => exact called.2

/-! ## Layers -/

/-- Whether a name was visited: it does not call the new name, and what it calls was seen. -/
def Visited (functions : Functions) (name : String) (seen : List String) (node : String) : Prop :=
  ¬ functions.Calls node name ∧ ∀ callee, functions.Calls node callee → callee ∈ seen

/-- What is visited stays so while more is seen. -/
theorem Visited.append {node : String} (visited : functions.Visited name seen node)
    (fresh : List String) : functions.Visited name (seen ++ fresh) node :=
  ⟨visited.1, fun callee called => List.mem_append_left fresh (visited.2 callee called)⟩

/-- What a search keeps from one step to the next: `now` is the rest of the layer at a distance from
the first names and `next` is a part of the layer behind it. -/
structure Layers (functions : Functions) (name : String) (starts seen now next : List String)
    (distance : Nat) : Prop where
  /-- The names of the layer are at this distance, on ways beside the new name. -/
  chains : ∀ node ∈ now, ChainFrom (functions.CallsBeside name) starts distance node
  /-- The names of the next layer are one call farther. -/
  nextChains : ∀ node ∈ next, ChainFrom (functions.CallsBeside name) starts (distance + 1) node
  /-- What was seen waits or was visited. -/
  waits : ∀ node ∈ seen, node ∈ now ++ next ∨ functions.Visited name seen node
  /-- What is not farther was visited, unless it still waits in the layer. -/
  near : ∀ length node, ChainFrom functions.Calls starts length node → length ≤ distance →
    (length = distance ∧ node ∈ now) ∨ functions.Visited name seen node

namespace Layers

/-- At the start the first names are the layer. -/
theorem initial (functions : Functions) (name : String) (starts : List String) :
    Layers functions name starts starts starts [] 0 where
  chains _ inside := .start inside
  nextChains _ inside := absurd inside List.not_mem_nil
  waits _ inside := .inl (List.mem_append_left [] inside)
  near length node chain bound := by
    cases chain with
    | start inside => exact .inl ⟨rfl, inside⟩
    | call => omega

/-- When a layer is done the next one takes its place. -/
theorem advance (layers : Layers functions name starts seen [] next distance) :
    Layers functions name starts seen next [] (distance + 1) where
  chains := layers.nextChains
  nextChains _ inside := absurd inside List.not_mem_nil
  waits node inside := by
    rw [List.append_nil]
    exact layers.waits node inside
  near length node chain bound := by
    have done : ∀ length node, ChainFrom functions.Calls starts length node → length ≤ distance →
        functions.Visited name seen node := by
      intro length node chain bound
      exact (layers.near length node chain bound).resolve_left fun waits =>
        List.not_mem_nil waits.2
    by_cases nearer : length ≤ distance
    · exact .inr (done length node chain nearer)
    · cases chain with
      | start => omega
      | @call before caller _ chain called =>
        -- The caller is in the layer that is done, so this name was seen.
        have visited := done before caller chain (by omega)
        rcases layers.waits node (visited.2 node called) with waits | visited
        · exact .inl ⟨by omega, waits⟩
        · exact .inr visited

/-- The first name that waits is in a layer. -/
theorem exists_cons {current : String}
    (layers : Layers functions name starts seen now next distance)
    (split : current :: waiting = now ++ next) :
    ∃ rest later farther, waiting = rest ++ later ∧
      Layers functions name starts seen (current :: rest) later farther := by
  cases now with
  | nil =>
    rw [List.nil_append] at split
    subst split
    exact ⟨waiting, [], distance + 1, (List.append_nil waiting).symm, layers.advance⟩
  | cons first rest =>
    rw [List.cons_append, List.cons.injEq] at split
    obtain ⟨rfl, same⟩ := split
    exact ⟨rest, next, distance, same, layers⟩

/-- Visiting a function that does not call the new name puts what it calls, and was not seen, into
the next layer. -/
theorem visit {current : String}
    (layers : Layers functions name starts seen (current :: now) next distance)
    (silent : ¬ functions.Calls current name) :
    let fresh := (functions.callees current).filter fun callee => callee ∉ seen
    Layers functions name starts (seen ++ fresh) now (next ++ fresh) distance := by
  intro fresh
  have visited : functions.Visited name (seen ++ fresh) current := by
    refine ⟨silent, fun callee called => ?_⟩
    by_cases old : callee ∈ seen
    · exact List.mem_append_left fresh old
    · exact List.mem_append_right seen (List.mem_filter.mpr ⟨called, decide_eq_true old⟩)
  constructor
  · exact fun node inside => layers.chains node (List.mem_cons_of_mem current inside)
  · intro node inside
    rcases List.mem_append.mp inside with old | new
    · exact layers.nextChains node old
    · have called : functions.Calls current node := (List.mem_filter.mp new).1
      have different : node ≠ name := fun same => silent (same ▸ called)
      exact (layers.chains current List.mem_cons_self).call ⟨called, different⟩
  · intro node inside
    rcases List.mem_append.mp inside with old | new
    · rcases layers.waits node old with waits | done
      · rcases List.mem_cons.mp waits with rfl | later
        · exact .inr visited
        · rw [← List.append_assoc]
          exact .inl (List.mem_append_left fresh later)
      · exact .inr (done.append fresh)
    · rw [← List.append_assoc]
      exact .inl (List.mem_append_right (now ++ next) new)
  · intro length node chain bound
    rcases layers.near length node chain bound with ⟨same, waits⟩ | done
    · rcases List.mem_cons.mp waits with rfl | later
      · exact .inr visited
      · exact .inl ⟨same, later⟩
    · exact .inr (done.append fresh)

/-- Nothing nearer than the layer calls the new name. -/
theorem le_of_calls (layers : Layers functions name starts seen now next distance) {rival : String}
    {length : Nat} (chain : ChainFrom functions.Calls starts length rival)
    (called : functions.Calls rival name) : distance ≤ length := by
  by_contra nearer
  rcases layers.near length rival chain (by omega) with ⟨same, -⟩ | visited
  · omega
  · exact visited.1 called

end Layers

/-! ## What the search finds -/

/-- Whether a function calls a name and none that calls it is nearer to the first names. -/
structure IsNearestCaller (functions : Functions) (name : String) (starts : List String)
    (culprit : String) : Prop where
  /-- The function is installed. -/
  installed : functions.contains culprit = true
  /-- It calls the name. -/
  calls : functions.Calls culprit name
  /-- A chain of calls leads to it without the name, and no chain to a function that calls the name
  is shorter, with the name or without it. -/
  nearest : ∃ distance, ChainFrom (functions.CallsBeside name) starts distance culprit ∧
    ∀ rival length, ChainFrom functions.Calls starts length rival → functions.Calls rival name →
      distance ≤ length

/-- A function that calls something is installed. -/
theorem contains_of_calls {caller callee : String} (called : functions.Calls caller callee) :
    functions.contains caller = true := by
  unfold Calls callees at called
  unfold Table.contains
  cases found : functions.find? caller with
  | some function => rfl
  | none =>
    rw [found] at called
    exact absurd called List.not_mem_nil

/-- A search through layers finds one of the nearest functions that call the name. -/
theorem Layers.isNearestCaller (layers : Layers functions name starts seen now next distance)
    (split : waiting = now ++ next) (found : functions.search name seen waiting = some other) :
    functions.IsNearestCaller name starts other := by
  fun_induction search functions name seen waiting generalizing now next distance with
  | case1 seen => simp at found
  | case2 seen current waiting called =>
    obtain rfl := Option.some.inj found
    obtain ⟨rest, later, farther, -, layers⟩ := layers.exists_cons split
    have chain := layers.chains current List.mem_cons_self
    exact ⟨contains_of_calls called, called, farther, chain, fun _ _ => layers.le_of_calls⟩
  | case3 seen current waiting silent fresh =>
    rename_i ih
    obtain ⟨rest, later, farther, same, layers⟩ := layers.exists_cons split
    have split : waiting ++ fresh = rest ++ (later ++ fresh) := by rw [same, List.append_assoc]
    exact ih (layers.visit silent) split found

/-- If one of the names that wait calls the name, the search finds the first that does. -/
theorem search_of_find?_eq_some {first : String}
    (found : waiting.find? (fun caller => name ∈ functions.callees caller) = some first)
    (seen later : List String) : functions.search name seen (waiting ++ later) = some first := by
  induction waiting generalizing seen later with
  | nil => simp at found
  | cons current rest ih =>
    rw [List.cons_append, search]
    by_cases called : name ∈ functions.callees current
    · rw [List.find?_cons, decide_eq_true called] at found
      rw [if_pos called]
      exact found
    · rw [List.find?_cons, decide_eq_false called] at found
      rw [if_neg called]
      dsimp only
      rw [List.append_assoc]
      exact ih found _ _

/-- The search finds the first of the names it starts with that calls the name, if it finds one of
them. -/
theorem find?_eq_some_of_search (found : functions.search name starts starts = some other)
    (inside : other ∈ starts) (called : functions.Calls other name) :
    starts.find? (fun caller => name ∈ functions.callees caller) = some other := by
  cases first : starts.find? fun caller => name ∈ functions.callees caller with
  | none => exact absurd called (find?_eq_none_iff_not_calls.mp first other inside)
  | some culprit =>
    have same := search_of_find?_eq_some first starts []
    rw [List.append_nil, found] at same
    exact same.symm

/-- A chain to a function that calls a name is a way to the name from one of the first names. -/
theorem exists_caller_iff (different : name ∉ starts) :
    (∃ caller length, ChainFrom functions.Calls starts length caller ∧
      functions.Calls caller name) ↔
      ∃ start ∈ starts, ReflTransGen functions.Calls start name := by
  constructor
  · rintro ⟨caller, length, chain, called⟩
    exact exists_chainFrom_iff.mp ⟨length + 1, chain.call called⟩
  · intro reached
    obtain ⟨length, chain⟩ := exists_chainFrom_iff.mpr reached
    cases chain with
    | start inside => exact absurd inside different
    | @call before caller _ chain called => exact ⟨caller, before, chain, called⟩

/-- The search blames one of the nearest functions that call the new name, whatever functions are
installed. Where the shorter check blames a function the search blames the same, and where the
search blames a listed function so does the shorter check. -/
theorem blames_nearest_caller (functions : Functions) (name : String) (calls : List String) :
    ((functions.crossRecursion? name calls).isSome = true ↔
      ∃ caller length, ChainFrom functions.Calls (calls.filter (· ≠ name)) length caller ∧
        functions.Calls caller name) ∧
    (∀ recursion, functions.crossRecursion? name calls = some recursion →
      ∃ other, recursion = .cross name other ∧
        functions.IsNearestCaller name (calls.filter (· ≠ name)) other) ∧
    (∀ other, functions.dualRecursion? name calls = some (.dual name other) →
      functions.crossRecursion? name calls = some (.cross name other)) ∧
    (∀ other ∈ calls, functions.crossRecursion? name calls = some (.cross name other) →
      functions.dualRecursion? name calls = some (.dual name other)) := by
  unfold crossRecursion? dualRecursion?
  dsimp only
  generalize starting : calls.filter (· ≠ name) = others
  have different : name ∉ others := by simp [← starting]
  have nearest : ∀ other, functions.search name others others = some other →
      functions.IsNearestCaller name others other := fun other found =>
    (Layers.initial functions name others).isNearestCaller (List.append_nil others).symm found
  refine ⟨?_, ?_, ?_, ?_⟩
  · rw [exists_caller_iff different, Option.isSome_map, Option.isSome_iff_ne_none, ne_eq,
      search_eq_none_iff different]
    push Not
    rfl
  · intro recursion blamed
    obtain ⟨other, found, rfl⟩ := Option.map_eq_some_iff.mp blamed
    exact ⟨other, rfl, nearest other found⟩
  · intro other blamed
    obtain ⟨first, found, same⟩ := Option.map_eq_some_iff.mp blamed
    cases same
    have searched := search_of_find?_eq_some found others []
    rw [List.append_nil] at searched
    rw [searched, Option.map_some]
  · intro other listed blamed
    obtain ⟨culprit, found, same⟩ := Option.map_eq_some_iff.mp blamed
    cases same
    obtain ⟨-, called, distance, chain, -⟩ := nearest other found
    have inside : other ∈ others := by
      rw [← starting]
      exact List.mem_filter.mpr ⟨listed, decide_eq_true (chain.ne_of_beside different)⟩
    rw [find?_eq_some_of_search found inside called, Option.map_some]

/-- Of two ways round the shorter one is blamed, though the longer one is listed first. -/
example :
    let table : Functions :=
      ⟨[("bar", ⟨[], [.call "tar" []]⟩), ("tar", ⟨[], [.call "foo" []]⟩),
        ("zar", ⟨[], [.call "car" []]⟩), ("car", ⟨[], [.call "zar" [], .call "bar" []]⟩)]⟩
    table.crossRecursion? "foo" ["zar", "bar"] = some (.cross "foo" "tar") ∧
      table.dualRecursion? "foo" ["zar", "bar"] = none := by
  decide +kernel

end PrefixCalc.Functions
