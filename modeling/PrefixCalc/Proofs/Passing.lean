import Mathlib.Data.List.Nodup
import PrefixCalc.Proofs.Evaluation

/-!
# Passing arguments

A call evaluates its arguments in the frame of the caller, from left to right
(`Eval.Gives`), and stops at the first one that fails (`Eval.Stops`). Then the
parameters are defined one after another in a new frame, which fails at the first
name that comes a second time (`Variables.defineAll_cases`). Only then does the
body run.
-/

namespace PrefixCalc

/-! ## Parameters -/

/-- Putting a new name in adds an entry at the end. -/
theorem Table.insert_of_not_mem {α : Type} {table : Table α} {name : String} (value : α)
    (missing : name ∉ table.names) : table.insert name value = ⟨table.entries ++ [(name, value)]⟩ := by
  obtain ⟨entries⟩ := table
  unfold insert
  congr 1
  induction entries with
  | nil => rfl
  | cons entry rest ih =>
    obtain ⟨different, later⟩ := List.ne_and_not_mem_of_not_mem_cons missing
    rw [insertEntry, if_neg different, ih later, List.cons_append]

/-- Whether a name is the first one of some names that repeats an earlier one. -/
def FirstRepeat (names : List String) (name : String) : Prop :=
  ∃ earlier later, names = earlier ++ name :: later ∧ earlier.Nodup ∧ name ∈ earlier

/-- Names with a repeated one are not distinct. -/
theorem FirstRepeat.not_nodup {names : List String} {name : String}
    (repeated : FirstRepeat names name) : ¬ names.Nodup := by
  obtain ⟨earlier, later, rfl, -, listed⟩ := repeated
  intro distinct
  exact (List.nodup_append.mp distinct).2.2 name listed name List.mem_cons_self rfl

namespace Variables

/-- Defining variables adds them at the end in their order, or fails at the first name that is there
already. -/
theorem defineAll_cases {locals : Variables} (distinct : locals.names.Nodup)
    (bindings : List (String × Value)) :
    ((locals.names ++ bindings.map Prod.fst).Nodup ∧
      locals.defineAll bindings = .ok ⟨locals.entries ++ bindings⟩) ∨
    ∃ name, FirstRepeat (locals.names ++ bindings.map Prod.fst) name ∧
      locals.defineAll bindings = .error (.duplicateVariable name) := by
  induction bindings generalizing locals with
  | nil =>
    rw [List.map_nil, List.append_nil, List.append_nil]
    exact .inl ⟨distinct, rfl⟩
  | cons binding rest ih =>
    obtain ⟨name, value⟩ := binding
    rw [defineAll, define]
    by_cases known : name ∈ locals.names
    · rw [if_pos ((Table.contains_iff locals name).mpr known)]
      exact .inr ⟨name, ⟨locals.names, rest.map Prod.fst, rfl, distinct, known⟩, rfl⟩
    · -- The frame grows by this variable, and its names with it.
      have grown := Table.insert_of_not_mem value known
      have names : (locals.insert name value).names = locals.names ++ [name] := by
        rw [Table.names_insert, if_neg known]
      have still : (locals.insert name value).names.Nodup := by
        rw [names, ← List.concat_eq_append]
        exact distinct.concat known
      have all : (locals.insert name value).names ++ rest.map Prod.fst =
          locals.names ++ ((name, value) :: rest).map Prod.fst := by
        rw [names, List.append_assoc]
        rfl
      have entries : (locals.insert name value).entries ++ rest =
          locals.entries ++ (name, value) :: rest := by
        rw [grown, List.append_assoc]
        rfl
      rw [if_neg fun contains => known ((Table.contains_iff locals name).mp contains), ← all,
        ← entries]
      exact ih still

/-- A new frame gets the parameters with their values in order, or fails at the first parameter that
repeats an earlier one. -/
theorem defineAll_zip_cases {parameters : List String} {values : List Value}
    (counted : values.length = parameters.length) :
    (parameters.Nodup ∧
      defineAll ∅ (parameters.zip values) = .ok ⟨parameters.zip values⟩) ∨
    ∃ name, FirstRepeat parameters name ∧
      defineAll ∅ (parameters.zip values) = .error (.duplicateVariable name) := by
  have names : (∅ : Variables).names ++ (parameters.zip values).map Prod.fst = parameters :=
    List.map_fst_zip (Nat.le_of_eq counted.symm)
  have cases := @defineAll_cases ∅ List.nodup_nil (parameters.zip values)
  rw [names] at cases
  exact cases

end Variables

namespace Eval

/-! ## Arguments -/

/-- Whether expressions, each evaluated where the one before it ended, have values and end in a
run. -/
inductive Gives (inner : Expr → Eval Value) : List Expr → Run → List Value → Run → Prop
  /-- Without expressions nothing happens. -/
  | nil (run : Run) : Gives inner [] run [] run
  /-- The first one is evaluated before the others. -/
  | cons {first : Expr} {rest : List Expr} {run middle after : Run} {value : Value}
    {values : List Value} :
    inner first run = .ok value middle → Gives inner rest middle values after →
    Gives inner (first :: rest) run (value :: values) after

/-- Whether one of some expressions fails after those before it had values. -/
def Stops (inner : Expr → Eval Value) (arguments : List Expr) (run : Run) (fault : Fault)
    (after : Run) : Prop :=
  ∃ before failing behind values middle, arguments = before ++ failing :: behind ∧
    Gives inner before run values middle ∧ inner failing middle = .error fault after

variable {inner : Expr → Eval Value} {arguments : List Expr} {run after : Run}

/-- There is a value for each expression. -/
theorem Gives.length_eq {values : List Value} (gives : Gives inner arguments run values after) :
    values.length = arguments.length := by
  induction gives with
  | nil run => rfl
  | cons _ _ ih => rw [List.length_cons, List.length_cons, ih]

/-- What stops behind an expression that has a value stops with it in front. -/
theorem Stops.cons {first : Expr} {value : Value} {middle : Run} {fault : Fault}
    (ended : inner first run = .ok value middle) (stops : Stops inner arguments middle fault after) :
    Stops inner (first :: arguments) run fault after := by
  obtain ⟨before, failing, behind, values, last, rfl, gives, failed⟩ := stops
  exact ⟨first :: before, failing, behind, value :: values, last, rfl, .cons ended gives, failed⟩

/-- Arguments have their values one after another, or stop at the first that fails. -/
theorem each_cases (inner : Expr → Eval Value) (arguments : List Expr) (run : Run) :
    (∃ values after, Gives inner arguments run values after ∧
      each inner arguments run = .ok values after) ∨
    ∃ fault after, Stops inner arguments run fault after ∧
      each inner arguments run = .error fault after := by
  induction arguments generalizing run with
  | nil => exact .inl ⟨[], run, .nil run, rfl⟩
  | cons first rest ih =>
    rw [each]
    cases outcome : inner first run with
    | error fault after =>
      rw [bind_of_error outcome]
      exact .inr ⟨fault, after, ⟨[], first, rest, [], run, rfl, .nil run, outcome⟩, rfl⟩
    | ok value middle =>
      rw [bind_of_ok outcome]
      rcases ih middle with ⟨values, after, gives, ended⟩ | ⟨fault, after, stops, failed⟩
      · rw [bind_of_ok ended]
        exact .inl ⟨value :: values, after, .cons outcome gives, rfl⟩
      · rw [bind_of_error failed]
        exact .inr ⟨fault, after, stops.cons outcome, rfl⟩

/-- Arguments that have values have them one after another. -/
theorem gives_of_each_eq_ok {values : List Value}
    (ended : each inner arguments run = .ok values after) :
    Gives inner arguments run values after := by
  rcases each_cases inner arguments run with ⟨_, _, gives, same⟩ | ⟨_, _, -, failed⟩
  · cases ended.symm.trans same
    exact gives
  · cases ended.symm.trans failed

/-! ## Calls -/

variable {parameters : List String}

/-- A call with the right number of arguments evaluates them, defines the parameters and runs the
body. -/
theorem invoke_eq_bind (counted : arguments.length = parameters.length) (body : List Expr) :
    invoke inner ⟨parameters, body⟩ arguments = (do
      let values ← each inner arguments
      let locals ← ofExcept (Variables.defineAll ∅ (parameters.zip values))
      inFrame locals (sequence inner (.number 0) body)) := by
  unfold invoke
  rw [if_neg (not_not_intro counted)]

/-- A call has a value only if the parameters of the function are distinct. -/
theorem nodup_of_invoke_eq_ok {function : Function} {result : Value}
    (ended : invoke inner function arguments run = .ok result after) :
    function.parameters.Nodup := by
  by_cases counted : arguments.length = function.parameters.length
  · -- The frame of the call was made, and it is made of distinct names only.
    rw [invoke_eq_bind counted, bind_eq_ok_iff] at ended
    obtain ⟨values, middle, given, later⟩ := ended
    obtain ⟨locals, _, defined, -⟩ := bind_eq_ok_iff.mp later
    have length : values.length = function.parameters.length :=
      (gives_of_each_eq_ok given).length_eq.trans counted
    rcases Variables.defineAll_zip_cases length with ⟨distinct, -⟩ | ⟨name, -, failed⟩
    · exact distinct
    · rw [failed] at defined
      cases defined
  · unfold invoke at ended
    rw [if_pos counted] at ended
    cases ended

/-- A definition that is accepted is in the table. -/
theorem find?_of_function_eq_ok {budget : Nat} {name : String} {body : List Expr} {value : Value}
    (accepted : expr budget (.function name parameters body) run = .ok value after) :
    after.environment.functions.find? name = some ⟨parameters, body⟩ := by
  cases budget with
  | zero => cases accepted
  | succ budget =>
    change install name ⟨parameters, body⟩ run = .ok value after at accepted
    rw [install_apply] at accepted
    split at accepted
    · cases accepted
    · cases accepted
      exact (Table.find?_insert _ name name _).trans (if_pos rfl)

/-- A function whose call has a value has distinct parameters. -/
theorem nodup_of_call_eq_ok {budget : Nat} {name : String} {function : Function} {result : Value}
    (found : run.environment.functions.find? name = some function)
    (ended : expr budget (.call name arguments) run = .ok result after) :
    function.parameters.Nodup := by
  cases budget with
  | zero => cases ended
  | succ budget =>
    change form (expr budget) (.call name arguments) run = _ at ended
    rw [form_call_apply, found] at ended
    exact nodup_of_invoke_eq_ok ended

/-- A call evaluates its arguments in the caller's frame, then defines the parameters, and only then
runs the body, in a frame of the parameters alone. A function with repeated parameters fails every
call. -/
theorem arguments_before_parameters_before_body (budget : Nat) :
    (∀ (parameters : List String) (arguments : List Expr) (run : Run),
      arguments.length = parameters.length →
      (∃ fault after, Stops (expr budget) arguments run fault after ∧
        ∀ body, invoke (expr budget) ⟨parameters, body⟩ arguments run = .error fault after) ∨
      ∃ values after, Gives (expr budget) arguments run values after ∧
        (parameters.Nodup → ∀ body,
          Ends (fun result last => invoke (expr budget) ⟨parameters, body⟩ arguments run =
              .ok result (last.withLocals after.environment.locals))
            (fun fault last => invoke (expr budget) ⟨parameters, body⟩ arguments run =
              .error fault (last.withLocals after.environment.locals))
            (sequence (expr budget) (.number 0) body
              (after.withLocals ⟨parameters.zip values⟩))) ∧
        (¬ parameters.Nodup → ∃ name, FirstRepeat parameters name ∧
          (Fault.duplicateVariable name).message =
            "Duplicate variable definition '" ++ name ++ "'" ∧
          ∀ body, invoke (expr budget) ⟨parameters, body⟩ arguments run =
            .error (.duplicateVariable name) after)) ∧
    ∀ (name : String) (parameters : List String) (body : List Expr) (run after : Run)
      (value : Value), expr budget (.function name parameters body) run = .ok value after →
      after.environment.functions.find? name = some ⟨parameters, body⟩ ∧
      ∀ later : Run, later.environment.functions.find? name = some ⟨parameters, body⟩ →
        ∀ limit arguments result last,
          expr limit (.call name arguments) later = .ok result last → parameters.Nodup := by
  constructor
  · intro parameters arguments run counted
    rcases each_cases (expr budget) arguments run with
      ⟨values, after, gives, ended⟩ | ⟨fault, after, stops, failed⟩
    · refine .inr ⟨values, after, gives, ?_⟩
      have length : values.length = parameters.length := gives.length_eq.trans counted
      rcases Variables.defineAll_zip_cases length with ⟨distinct, defined⟩ | ⟨name, again, refused⟩
      · refine ⟨fun _ body => ?_, fun repeated => absurd distinct repeated⟩
        have framed : invoke (expr budget) ⟨parameters, body⟩ arguments run =
            inFrame ⟨parameters.zip values⟩ (sequence (expr budget) (.number 0) body) after := by
          rw [invoke_eq_bind counted, bind_of_ok ended, defined]
          rfl
        rw [framed, inFrame_apply]
        cases sequence (expr budget) (.number 0) body (after.withLocals ⟨parameters.zip values⟩) with
        | ok result last => exact rfl
        | error fault last => exact rfl
      · refine ⟨fun distinct => absurd distinct again.not_nodup, fun _ => ⟨name, again, rfl, ?_⟩⟩
        intro body
        rw [invoke_eq_bind counted, bind_of_ok ended, refused]
        rfl
    · refine .inl ⟨fault, after, stops, fun body => ?_⟩
      rw [invoke_eq_bind counted, bind_of_error failed]
  · intro name parameters body run after value accepted
    exact ⟨find?_of_function_eq_ok accepted, fun later found limit arguments result last ended =>
      nodup_of_call_eq_ok found ended⟩

/-- Arguments that print and that define a variable come before the parameter that is repeated, and
a definition with repeated parameters is accepted and never called with success. -/
theorem arguments_before_parameters_before_body_repeated :
    let parameters := ["x", "y", "x"]
    let arguments := [Expr.print (.literal (.boolean true)), .define "y" (.literal (.boolean false)),
      .get "y"]
    (arguments.length = parameters.length ∧
      ∃ after, after.events.size = 1 ∧ after.environment.locals.names = ["y"] ∧
        ∀ body, invoke (expr 3) ⟨parameters, body⟩ arguments {} =
          .error (.duplicateVariable "x") after) ∧
    ∃ after, expr 3 (.function "f" ["x", "x"] [.get "x"]) {} = .ok (.boolean true) after ∧
      ∀ limit arguments result last, expr limit (.call "f" arguments) after ≠ .ok result last := by
  intro parameters arguments
  constructor
  · have ran : invoke (expr 3) ⟨parameters, []⟩ arguments {} = .error (.duplicateVariable "x") _ :=
      rfl
    refine ⟨rfl, ?_⟩
    rcases (arguments_before_parameters_before_body 3).1 parameters arguments {} rfl with
      ⟨fault, after, -, failed⟩ | ⟨values, after, -, -, repeated⟩
    · cases (failed []).symm.trans ran
      exact ⟨_, rfl, rfl, failed⟩
    · obtain ⟨name, -, -, failed⟩ := repeated (by decide)
      cases (failed []).symm.trans ran
      exact ⟨_, rfl, rfl, failed⟩
  · have harmless : ({} : Run).environment.functions.recursion? "f" ⟨["x", "x"], [.get "x"]⟩ =
        none := by decide +kernel
    have accepted := install_apply "f" ⟨["x", "x"], [.get "x"]⟩ {}
    rw [harmless] at accepted
    refine ⟨_, accepted, fun limit arguments result last ended => ?_⟩
    obtain ⟨found, distinct⟩ :=
      (arguments_before_parameters_before_body 3).2 _ _ _ _ _ _ accepted
    exact absurd (distinct _ found limit arguments result last ended) (by decide)

end Eval

end PrefixCalc
