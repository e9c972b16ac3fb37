import PrefixCalc.Expr.Calls

/-!
# Expressions inside expressions

What is evaluated as part of an expression is found through its `parts`, again and
again; the bodies of definitions are not among them. Proofs about evaluation go
down this way (`Expr.byParts`), tests that look everywhere inside an expression do
(`Expr.everywhere`), and so does the list of the functions that it calls
(`Expr.mem_calls`).
-/

namespace PrefixCalc.Expr

/-- What holds of an expression whenever it holds of its parts holds of every expression. -/
@[elab_as_elim]
theorem byParts {motive : Expr → Prop}
    (step : ∀ code, (∀ part ∈ code.parts, motive part) → motive code) (code : Expr) :
    motive code := by
  induction size : code.size using Nat.strongRecOn generalizing code with
  | _ size ih =>
    refine step code fun part inside => ih part.size ?_ part rfl
    obtain ⟨before, after, split⟩ := List.append_of_mem inside
    have whole := size_eq_succ_totalSize_parts code
    rw [split, totalSize_append, totalSize] at whole
    omega

/-! ## Tests -/

mutual

/-- Whether a test holds of an expression and of everything evaluated inside it. -/
def everywhere (test : Expr → Bool) : Expr → Bool
  | .define name value => test (.define name value) && everywhere test value
  | .assign name value => test (.assign name value) && everywhere test value
  | .print value => test (.print value) && everywhere test value
  | .unary operator operand => test (.unary operator operand) && everywhere test operand
  | .binary operator left right =>
    test (.binary operator left right) && (everywhere test left && everywhere test right)
  | .choose condition whenTrue whenFalse =>
    test (.choose condition whenTrue whenFalse) &&
      (everywhere test condition && (everywhere test whenTrue && everywhere test whenFalse))
  | .call name arguments => test (.call name arguments) && everywhereInAll test arguments
  | code => test code

/-- Whether a test holds everywhere in some expressions. -/
def everywhereInAll (test : Expr → Bool) : List Expr → Bool
  | [] => true
  | first :: rest => everywhere test first && everywhereInAll test rest

end

/-- A test holds everywhere in some expressions if it does so in each. -/
theorem everywhereInAll_eq_all (test : Expr → Bool) (body : List Expr) :
    everywhereInAll test body = body.all (everywhere test) := by
  induction body with
  | nil => rfl
  | cons first rest ih => rw [everywhereInAll, ih, List.all_cons]

/-- A test holds everywhere in an expression if it holds of it and everywhere in its parts. -/
theorem everywhere_iff {test : Expr → Bool} {code : Expr} :
    code.everywhere test = true ↔
      test code = true ∧ ∀ part ∈ code.parts, part.everywhere test = true := by
  cases code <;> simp [everywhere, parts, everywhereInAll_eq_all]

/-- What holds everywhere in an expression holds everywhere in its parts. -/
theorem everywhere_part {test : Expr → Bool} {code part : Expr}
    (holds : code.everywhere test = true) (inside : part ∈ code.parts) :
    part.everywhere test = true :=
  (everywhere_iff.mp holds).2 part inside

/-- A weaker test holds wherever a stronger one does. -/
theorem everywhere_mono {test weaker : Expr → Bool}
    (weakens : ∀ code, test code = true → weaker code = true) {code : Expr}
    (holds : code.everywhere test = true) : code.everywhere weaker = true := by
  induction code using byParts with
  | step code ih =>
    obtain ⟨here, inside⟩ := everywhere_iff.mp holds
    exact everywhere_iff.mpr
      ⟨weakens code here, fun part within => ih part within (inside part within)⟩

/-- Whether an expression is not the definition of a function. -/
def isNoFunction : Expr → Bool
  | .function .. => false
  | _ => true

/-- Whether an expression defines no function when it is evaluated. -/
def definesNothing (code : Expr) : Bool :=
  code.everywhere isNoFunction

/-- Whether the body of an expression, if it defines a function, defines none itself. -/
def hasFlatBody : Expr → Bool
  | .function _ _ body => body.all definesNothing
  | _ => true

/-- Whether no definition of a function stands in the body of another one. -/
def isFlat (code : Expr) : Bool :=
  code.everywhere hasFlatBody

/-- The parts of what defines nothing define nothing. -/
theorem definesNothing_part {code part : Expr} (nothing : code.definesNothing = true)
    (inside : part ∈ code.parts) : part.definesNothing = true :=
  everywhere_part nothing inside

/-- The parts of what has no nested definitions have none. -/
theorem isFlat_part {code part : Expr} (flat : code.isFlat = true) (inside : part ∈ code.parts) :
    part.isFlat = true :=
  everywhere_part flat inside

/-- The body of a definition without nested ones defines nothing. -/
theorem definesNothing_of_mem_body {name : String} {parameters : List String} {body : List Expr}
    {code : Expr} (flat : (Expr.function name parameters body).isFlat = true)
    (inside : code ∈ body) : code.definesNothing = true :=
  List.all_eq_true.mp (everywhere_iff.mp flat).1 code inside

/-- Where no function is defined no definitions are nested. -/
theorem isFlat_of_definesNothing {code : Expr} (nothing : code.definesNothing = true) :
    code.isFlat = true := by
  refine everywhere_mono (fun code holds => ?_) nothing
  cases code with
  | function name parameters body => cases holds
  | _ => rfl

/-! ## Calls -/

/-- Whether an expression calls a function when it is evaluated, in one of its parts if need be. -/
inductive MayCall : Expr → String → Prop
  /-- The expression is a call. -/
  | here (name : String) (arguments : List Expr) : MayCall (.call name arguments) name
  /-- The call is in a part. -/
  | inside {code part : Expr} {name : String} :
    part ∈ code.parts → MayCall part name → MayCall code name

/-- A call is the expression itself or in one of its parts. -/
theorem mayCall_iff {code : Expr} {name : String} :
    code.MayCall name ↔
      (∃ arguments, code = .call name arguments) ∨ ∃ part ∈ code.parts, part.MayCall name := by
  constructor
  · intro may
    cases may with
    | here name arguments => exact .inl ⟨arguments, rfl⟩
    | inside within later => exact .inr ⟨_, within, later⟩
  · rintro (⟨arguments, rfl⟩ | ⟨part, within, later⟩)
    · exact .here name arguments
    · exact .inside within later

/-- A name is noted if it was before or is called by the expression itself. -/
theorem mem_noteCall {names : List String} {code : Expr} {name : String} :
    name ∈ noteCall names code ↔ name ∈ names ∨ ∃ arguments, code = .call name arguments := by
  cases code with
  | call called arguments =>
    simp only [noteCall, addName, call.injEq]
    split
    · rename_i known
      constructor
      · exact .inl
      · rintro (old | ⟨_, rfl, -⟩)
        · exact old
        · exact known
    · simp [eq_comm]
  | _ => simp [noteCall]

/-- The walk notes what was noted before and what the waiting expressions call. -/
theorem mem_collectCalls {names : List String} {waiting : List Expr} {name : String} :
    name ∈ collectCalls names waiting ↔
      name ∈ names ∨ ∃ code ∈ waiting, code.MayCall name := by
  fun_induction collectCalls names waiting with
  | case1 names => simp
  | case2 names code waiting ih =>
    have here : code.MayCall name ↔ _ := mayCall_iff
    rw [ih, mem_noteCall]
    simp only [List.mem_append, List.mem_cons, or_and_right, exists_or, exists_eq_left, here,
      or_assoc]

/-- The functions that some expressions call are those that one of them calls. -/
theorem mem_calls {body : List Expr} {name : String} :
    name ∈ calls body ↔ ∃ code ∈ body, code.MayCall name := by
  rw [calls, mem_collectCalls]
  simp

end PrefixCalc.Expr
