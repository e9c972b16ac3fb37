import PrefixCalc.Proofs.CallGraph
import PrefixCalc.Proofs.Parallel

/-!
# What values steer

Operators look at the kinds of their operands and at nothing else before they
answer, so a number never makes one fail. Two evaluations of one shape, without
conditions and with values of the same kinds at the same places, take the same
course: they call, define and print alike, and either both give values of one kind
or both fail for one cause (`numbers_steer_only_conditions`).
-/

namespace PrefixCalc

/-- Whether two values are both numbers or both booleans. -/
inductive Value.Alike : Value → Value → Prop
  | number (x y : Float) : Alike (.number x) (.number y)
  | boolean (p q : Bool) : Alike (.boolean p) (.boolean q)

/-- A value is of the kind that it is of. -/
theorem Value.Alike.refl (value : Value) : value.Alike value := by
  cases value with
  | number x => exact .number x x
  | boolean p => exact .boolean p p

/-- Whether two faults have one cause; the values that they quote may differ, but not in kind. -/
inductive Fault.Alike : Fault → Fault → Prop
  | notBoolean {value twin : Value} : value.Alike twin →
    Alike (.notBoolean value) (.notBoolean twin)
  | notNumber {value twin : Value} : value.Alike twin → Alike (.notNumber value) (.notNumber twin)
  | mismatched {left right leftTwin rightTwin : Value} : left.Alike leftTwin →
    right.Alike rightTwin → Alike (.mismatched left right) (.mismatched leftTwin rightTwin)
  | same (fault : Fault) : Alike fault fault

/-! ## Operators -/

/-- The number in a value is there or missing by its kind. -/
theorem Value.Alike.toNumber {value twin : Value} (alike : value.Alike twin) :
    AnswerAlike (fun _ _ => True) Fault.Alike value.toNumber twin.toNumber := by
  cases alike with
  | number x y => exact .ok trivial
  | boolean p q => exact .error (.notNumber (.boolean p q))

/-- The boolean in a value is there or missing by its kind. -/
theorem Value.Alike.toBoolean {value twin : Value} (alike : value.Alike twin) :
    AnswerAlike (fun _ _ => True) Fault.Alike value.toBoolean twin.toBoolean := by
  cases alike with
  | number x y => exact .error (.notBoolean (.number x y))
  | boolean p q => exact .ok trivial

/-- Two values are of one kind or not by their kinds. -/
theorem Value.Alike.requireOneKind {left right leftTwin rightTwin : Value}
    (lefts : left.Alike leftTwin) (rights : right.Alike rightTwin) :
    AnswerAlike (fun _ _ => True) Fault.Alike (left.requireOneKind right)
      (leftTwin.requireOneKind rightTwin) := by
  cases lefts with
  | number x y =>
    cases rights with
    | number => exact .ok trivial
    | boolean p q => exact .error (.mismatched (.number x y) (.boolean p q))
  | boolean p q =>
    cases rights with
    | number x y => exact .error (.mismatched (.boolean p q) (.number x y))
    | boolean => exact .ok trivial

/-- Answers that are alike stay so if what is made of them is. -/
theorem AnswerAlike.bind {ε α β γ δ : Type} {value : α → β → Prop} {last : γ → δ → Prop}
    {failure : ε → ε → Prop} {answer : Except ε α} {twin : Except ε β}
    {next : α → Except ε γ} {twinNext : β → Except ε δ}
    (first : AnswerAlike value failure answer twin)
    (second : ∀ {result other}, value result other →
      AnswerAlike last failure (next result) (twinNext other)) :
    AnswerAlike last failure (answer >>= next) (twin >>= twinNext) := by
  cases first with
  | ok related => exact second related
  | error related => exact .error related

/-- Whether a binary rule faults depends on the kinds of its operands alone. -/
theorem BinaryRule.apply_alike (rule : BinaryRule) {left right leftTwin rightTwin : Value}
    (lefts : left.Alike leftTwin) (rights : right.Alike rightTwin) :
    AnswerAlike Value.Alike Fault.Alike (rule.apply left right)
      (rule.apply leftTwin rightTwin) := by
  cases rule with
  | numeric operation =>
    exact lefts.toNumber.bind fun _ => rights.toNumber.bind fun _ => .ok (.number _ _)
  | comparison onNumbers onBooleans =>
    exact (lefts.requireOneKind rights).bind fun _ => .ok (.boolean _ _)
  | logical operation =>
    exact lefts.toBoolean.bind fun _ => rights.toBoolean.bind fun _ => .ok (.boolean _ _)

/-- Whether a unary rule faults depends on the kind of its operand alone. -/
theorem UnaryRule.apply_alike (rule : UnaryRule) {operand twin : Value}
    (operands : operand.Alike twin) :
    AnswerAlike Value.Alike Fault.Alike (rule.apply operand) (rule.apply twin) := by
  cases rule with
  | numeric operation => exact operands.toNumber.bind fun _ => .ok (.number _ _)
  | logical operation => exact operands.toBoolean.bind fun _ => .ok (.boolean _ _)
  | asNumber => exact .ok (.number _ _)
  | asBoolean => exact .ok (.boolean _ _)

/-! ## Expressions and functions of one shape -/

namespace Expr

/-- Whether an expression is not a condition. -/
def isNoCondition : Expr → Bool
  | .choose .. => false
  | _ => true

/-- Whether two expressions have one shape without conditions: the same forms, names, parameters and
operators all the way down, the bodies of definitions included, and literals of one kind at the same
places. -/
inductive Alike : Expr → Expr → Prop
  | intro {code twin : Expr} : code.isNoCondition = true → Matched Value.Alike Alike code twin →
    Alike code twin

variable {code twin : Expr}

/-- Expressions of one shape are of one form. -/
theorem Alike.matched (alike : code.Alike twin) : Matched Value.Alike Alike code twin := by
  cases alike with
  | intro _ matched => exact matched

/-- Expressions of one shape have parts of one shape. -/
theorem Alike.parts (alike : code.Alike twin) : List.Forall₂ Alike code.parts twin.parts := by
  cases alike.matched with
  | literal | get | function | gap => exact .nil
  | define _ inside | assign _ inside | unary _ inside | print inside => exact .cons inside .nil
  | binary _ left right => exact .cons left (.cons right .nil)
  | choose condition whenTrue whenFalse =>
    exact .cons condition (.cons whenTrue (.cons whenFalse .nil))
  | call _ arguments => exact arguments

/-- Expressions of one shape note the same call. -/
theorem Alike.noteCall (alike : code.Alike twin) (names : List String) :
    noteCall names code = noteCall names twin := by
  cases alike.matched <;> rfl

/-- Walks over expressions of one shape note the same calls. -/
theorem collectCalls_alike (names : List String) {waiting twins : List Expr}
    (alike : List.Forall₂ Alike waiting twins) :
    collectCalls names waiting = collectCalls names twins := by
  fun_induction collectCalls names waiting generalizing twins with
  | case1 names =>
    cases alike
    rw [collectCalls]
  | case2 names code waiting ih =>
    cases alike with
    | cons head tail =>
      rw [collectCalls, ← head.noteCall names]
      exact ih (List.rel_append head.parts tail)

/-- Bodies of one shape call the same functions. -/
theorem calls_alike {body twins : List Expr} (alike : List.Forall₂ Alike body twins) :
    calls body = calls twins :=
  collectCalls_alike [] alike

end Expr

/-- Whether two tables have functions of one shape for the same names. -/
def Functions.Alike (functions twin : Functions) : Prop :=
  ∀ name, Option.Rel (Function.Matched Expr.Alike) (functions.find? name) (twin.find? name)

namespace Functions.Alike

variable {functions twin : Functions}

/-- Tables of one shape have the same calls. -/
theorem callees (alike : functions.Alike twin) (name : String) :
    functions.callees name = twin.callees name := by
  have found := alike name
  unfold Functions.callees
  generalize functions.find? name = function, twin.find? name = other at found
  cases found with
  | some matched => exact Expr.calls_alike matched.body
  | none => rfl

/-- Tables of one shape have the same names. -/
theorem mem_names (alike : functions.Alike twin) (name : String) :
    name ∈ functions.names ↔ name ∈ twin.names := by
  have found := alike name
  rw [← Table.contains_iff, ← Table.contains_iff, Table.contains, Table.contains]
  generalize functions.find? name = function, twin.find? name = other at found
  cases found with
  | some _ => rfl
  | none => rfl

/-- Tables of one shape stay so when functions of one shape are installed. -/
theorem insert (alike : functions.Alike twin) (name : String) {function other : Function}
    (matched : function.Matched Expr.Alike other) :
    Functions.Alike (functions.insert name function) (twin.insert name other) := by
  intro known
  rw [Table.find?_insert, Table.find?_insert]
  split
  · exact .some matched
  · exact alike known

end Functions.Alike

/-- Whether two tables have added the same names to others, in the same order. -/
def Functions.AddedAlike (before others : List String) (functions twin : Functions) : Prop :=
  ∃ added, functions.names = before ++ added ∧ twin.names = others ++ added

/-- Tables of one shape that have added the same names still do so after one more function. -/
theorem Functions.AddedAlike.insert {before others : List String} {functions twin : Functions}
    (same : functions.AddedAlike before others twin) (alike : functions.Alike twin) (name : String)
    (function other : Function) :
    Functions.AddedAlike before others (functions.insert name function)
      (twin.insert name other) := by
  obtain ⟨added, names, twinNames⟩ := same
  have members := alike.mem_names name
  unfold AddedAlike
  rw [Table.names_insert, Table.names_insert]
  by_cases known : name ∈ functions.names
  · rw [if_pos known, if_pos (members.mp known)]
    exact ⟨added, names, twinNames⟩
  · rw [if_neg known, if_neg fun other => known (members.mpr other), names, twinNames]
    exact ⟨added ++ [name], List.append_assoc .., List.append_assoc ..⟩

/-- Whether two environments have values of the same kinds for the same variables, in the same
order, and functions of one shape for the same names. -/
structure Environment.Alike (environment twin : Environment) : Prop where
  /-- The variables have the same names in the same order and values of the same kinds. -/
  locals : environment.locals.Related Value.Alike twin.locals
  /-- The functions are of one shape. -/
  functions : environment.functions.Alike twin.functions

/-! ## Evaluations of one shape -/

/-- The lines that some events write on the first output. -/
def outLines (events : Array Event) : List String :=
  events.toList.filterMap Event.outLine?

/-- A trace writes no line. -/
theorem outLines_push_trace (events : Array Event) (trace : Trace) :
    outLines (events.push (.trace trace)) = outLines events := by
  simp [outLines, Event.outLine?]

/-- A printed value writes one line. -/
theorem length_outLines_push_printed (events : Array Event) (value : Value) :
    (outLines (events.push (.printed value))).length = (outLines events).length + 1 := by
  simp [outLines, Event.outLine?]

namespace Eval

/-- Evaluations of one shape without conditions are alike, from tables with the given names. -/
def oneShape (before others : List String) : Likeness where
  expr := Expr.Alike
  value := Value.Alike
  fault := Fault.Alike
  functions table twin := table.Alike twin ∧ table.AddedAlike before others twin
  events earlier twins := (outLines earlier).length = (outLines twins).length
  matched := Expr.Alike.matched
  valueRefl := Value.Alike.refl
  faultRefl := Fault.Alike.same
  binary operator := operator.rule.apply_alike
  unary operator := operator.rule.apply_alike
  choose related := by
    cases related with
    | intro noCondition _ => cases noCondition
  print {result twin earlier others} _ same := by
    rw [length_outLines_push_printed, length_outLines_push_printed, same]
  install {name parameters body twins} related run other paired := by
    obtain ⟨locals, ⟨functions, added⟩, events⟩ := paired
    cases related.matched with
    | function _ _ bodies =>
      have refused : run.environment.functions.recursion? name ⟨parameters, body⟩ =
          other.environment.functions.recursion? name ⟨parameters, twins⟩ :=
        Functions.recursion?_congr functions.callees name (Expr.calls_alike bodies)
      have traced (trace : Trace) : (outLines (run.events.push (.trace trace))).length =
          (outLines (other.events.push (.trace trace))).length := by
        rw [outLines_push_trace, outLines_push_trace, events]
      rw [install_apply, install_apply, ← refused]
      split
      · exact .error (.same _) ⟨locals, ⟨functions, added⟩, traced _⟩
      · exact .ok (.boolean true true)
          ⟨locals, ⟨functions.insert name ⟨rfl, bodies⟩, added.insert functions name _ _⟩, traced _⟩
  find {name _ _} _ {_ _} functions := functions.1 name

/-- Values steer nothing but conditions. Two evaluations of one shape without conditions, on values
of the same kinds, give values of one kind or fail for one cause, and whether an operator faults
depends on kinds alone. -/
theorem numbers_steer_only_conditions (budget : Nat) {code twin : Expr}
    {environment other : Environment} (shape : code.Alike twin)
    (alike : environment.Alike other) :
    EndAlike Value.Alike Fault.Alike
      (fun after last => after.environment.Alike last.environment ∧
        (outLines after.events).length = (outLines last.events).length ∧
        Functions.AddedAlike environment.functions.names other.functions.names
          after.environment.functions last.environment.functions)
      (expr budget code { environment }) (expr budget twin { environment := other }) ∧
    (∀ (operator : BinaryOp) {left right leftTwin rightTwin : Value}, left.Alike leftTwin →
      right.Alike rightTwin → AnswerAlike Value.Alike Fault.Alike (operator.apply left right)
        (operator.apply leftTwin rightTwin)) ∧
    ∀ (operator : UnaryOp) {operand operandTwin : Value}, operand.Alike operandTwin →
      AnswerAlike Value.Alike Fault.Alike (operator.apply operand)
        (operator.apply operandTwin) := by
  refine ⟨?_, fun operator => operator.rule.apply_alike, fun operator => operator.rule.apply_alike⟩
  let likeness := oneShape environment.functions.names other.functions.names
  have paired : likeness.Runs { environment } { environment := other } :=
    ⟨alike.locals, ⟨alike.functions, [], by simp, by simp⟩, rfl⟩
  have ends := @Likeness.steps_expr likeness budget code twin shape _ _ paired
  exact ends.mono fun still => ⟨⟨still.locals, still.functions.1⟩, still.events, still.functions.2⟩

/-- Quotients by two and by zero take the same course, also where a function prints them. -/
theorem numbers_steer_only_conditions_quotient :
    let function (divisor : Float) : Function :=
      ⟨["x"], [.print (.binary .divide (.get "x") (.literal (.number divisor)))]⟩
    let environment (divisor start : Float) (flag : Bool) : Environment :=
      { locals := ⟨[("v", .number start), ("b", .boolean flag)]⟩
        functions := ⟨[("f", function divisor)]⟩ }
    let code (exponent : Float) :=
      Expr.call "f" [.binary .power (.get "v") (.literal (.number exponent))]
    EndAlike Value.Alike Fault.Alike
      (fun after last => after.environment.Alike last.environment ∧
        (outLines after.events).length = (outLines last.events).length ∧
        Functions.AddedAlike ["f"] ["f"] after.environment.functions last.environment.functions)
      (expr 4 (code 3) { environment := environment 2 1 true })
      (expr 4 (code (-1)) { environment := environment 0 0 false }) := by
  intro function environment code
  have shape : (code 3).Alike (code (-1)) :=
    .intro rfl (.call "f" (.cons (.intro rfl (.binary .power (.intro rfl (.get "v"))
      (.intro rfl (.literal (.number 3 (-1)))))) .nil))
  have body : (function 2).Matched Expr.Alike (function 0) :=
    ⟨rfl, .cons (.intro rfl (.print (.intro rfl (.binary .divide (.intro rfl (.get "x"))
      (.intro rfl (.literal (.number 2 0))))))) .nil⟩
  have alike : (environment 2 1 true).Alike (environment 0 0 false) :=
    ⟨.cons ⟨rfl, .number 1 0⟩ (.cons ⟨rfl, .boolean true false⟩ .nil),
      Table.Related.find? (.cons ⟨rfl, body⟩ .nil)⟩
  exact (numbers_steer_only_conditions 4 shape alike).1

end Eval

end PrefixCalc
