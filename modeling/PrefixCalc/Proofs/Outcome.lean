/-!
# Outcomes of steps

Reading, evaluating and sessions are steps that change a state and may fail with
an error. `Ends` says what holds of the state at the end, for results and for
errors, and `Keeps` that a step keeps a property of states. `Ends.bind` and
`Keeps.bind` carry both through steps taken one after another.
-/

namespace PrefixCalc

variable {ε σ α β : Type}

/-- Whether an outcome is a result that satisfies `value` or an error that satisfies `failure`. -/
def Ends (value : α → σ → Prop) (failure : ε → σ → Prop) : EStateM.Result ε σ α → Prop
  | .ok result state => value result state
  | .error error state => failure error state

/-- The state at the end of a step, whether it failed or not. -/
def stateAfter (action : EStateM ε σ α) (state : σ) : σ :=
  match action state with
  | .ok _ after => after
  | .error _ after => after

/-- After a step that gave a result, the next one goes on from there. -/
theorem bind_of_ok {action : EStateM ε σ α} {next : α → EStateM ε σ β} {state after : σ}
    {result : α} (ended : action state = .ok result after) :
    (action >>= next) state = next result after := by
  change EStateM.bind action next state = _
  rw [EStateM.bind, ended]

/-- After a step that failed, the next one is not taken. -/
theorem bind_of_error {action : EStateM ε σ α} {next : α → EStateM ε σ β} {state after : σ}
    {error : ε} (ended : action state = .error error after) :
    (action >>= next) state = .error error after := by
  change EStateM.bind action next state = _
  rw [EStateM.bind, ended]

/-- The state after a step that gave a result. -/
theorem stateAfter_of_ok {action : EStateM ε σ α} {state after : σ} {result : α}
    (ended : action state = .ok result after) : stateAfter action state = after := by
  rw [stateAfter, ended]

/-- The state after a step that failed. -/
theorem stateAfter_of_error {action : EStateM ε σ α} {state after : σ} {error : ε}
    (ended : action state = .error error after) : stateAfter action state = after := by
  rw [stateAfter, ended]

/-- After a step that gave a result, the state at the end is that of the next one. -/
theorem stateAfter_bind_of_ok {action : EStateM ε σ α} {next : α → EStateM ε σ β} {state after : σ}
    {result : α} (ended : action state = .ok result after) :
    stateAfter (action >>= next) state = stateAfter (next result) after := by
  rw [stateAfter, bind_of_ok ended, stateAfter]

/-- After a step that failed, the state stays. -/
theorem stateAfter_bind_of_error {action : EStateM ε σ α} {next : α → EStateM ε σ β}
    {state after : σ} {error : ε} (ended : action state = .error error after) :
    stateAfter (action >>= next) state = after := by
  rw [stateAfter, bind_of_error ended]

/-- What the next step does not touch is as the first one left it. -/
theorem observe_stateAfter_bind {γ : Type} (observe : σ → γ) {action : EStateM ε σ α}
    {next : α → EStateM ε σ β}
    (still : ∀ result after, observe (stateAfter (next result) after) = observe after) (state : σ) :
    observe (stateAfter (action >>= next) state) = observe (stateAfter action state) := by
  cases outcome : action state with
  | ok result after =>
    have later := still result after
    unfold stateAfter at later ⊢
    rw [bind_of_ok outcome, outcome]
    exact later
  | error error after =>
    unfold stateAfter
    rw [bind_of_error outcome, outcome]

/-- What is made of a result does not change the state. -/
theorem stateAfter_bind_pure (action : EStateM ε σ α) (next : α → β) (state : σ) :
    stateAfter (do return next (← action)) state = stateAfter action state :=
  observe_stateAfter_bind id (fun _ _ => rfl) state

/-- Two steps one after another give a result if the first does and the second does from there. -/
theorem bind_eq_ok_iff {action : EStateM ε σ α} {next : α → EStateM ε σ β} {state final : σ}
    {last : β} :
    (action >>= next) state = .ok last final ↔
      ∃ result after, action state = .ok result after ∧ next result after = .ok last final := by
  change EStateM.bind action next state = _ ↔ _
  unfold EStateM.bind
  cases action state with
  | ok result after =>
    constructor
    · exact fun ended => ⟨result, after, rfl, ended⟩
    · rintro ⟨_, _, ⟨⟩, ended⟩
      exact ended
  | error error after => exact ⟨nofun, nofun⟩

namespace Ends

variable {value : α → σ → Prop} {failure : ε → σ → Prop}

/-- What an outcome satisfies can be weakened. -/
theorem mono {weaker : α → σ → Prop} {weakerFailure : ε → σ → Prop}
    {outcome : EStateM.Result ε σ α} (ends : Ends value failure outcome)
    (results : ∀ result state, value result state → weaker result state)
    (errors : ∀ error state, failure error state → weakerFailure error state) :
    Ends weaker weakerFailure outcome := by
  cases outcome with
  | ok result state => exact results result state ends
  | error error state => exact errors error state ends

/-- Two steps one after another end well if the first does and the second does from there. -/
theorem bind {middle : α → σ → Prop} {last : β → σ → Prop} {action : EStateM ε σ α}
    {next : α → EStateM ε σ β} {state : σ} (first : Ends middle failure (action state))
    (second : ∀ result after, middle result after → Ends last failure (next result after)) :
    Ends last failure ((action >>= next) state) := by
  change Ends last failure (EStateM.bind action next state)
  unfold EStateM.bind
  cases outcome : action state with
  | ok result after =>
    rw [outcome] at first
    exact second result after first
  | error error after =>
    rw [outcome] at first
    exact first

/-- What holds of every outcome alike holds of the state at the end. -/
theorem holds_after {always : σ → Prop} {action : EStateM ε σ α} {state : σ}
    (ends : Ends (fun _ after => always after) (fun _ after => always after) (action state)) :
    always (stateAfter action state) := by
  unfold stateAfter
  cases outcome : action state with
  | ok result after =>
    rw [outcome] at ends
    exact ends
  | error error after =>
    rw [outcome] at ends
    exact ends

end Ends

/-- Whether a step keeps a property of states and fails only with excused errors. -/
def Keeps (keep : σ → Prop) (excused : ε → Prop) (action : EStateM ε σ α) : Prop :=
  ∀ state, keep state →
    Ends (fun _ after => keep after) (fun error after => keep after ∧ excused error) (action state)

namespace Keeps

variable {keep : σ → Prop} {excused : ε → Prop}

/-- A result alone changes nothing. -/
theorem pure (result : α) : Keeps keep excused (pure result : EStateM ε σ α) :=
  fun _ kept => kept

/-- An excused error changes nothing. -/
theorem throw {error : ε} (fine : excused error) :
    Keeps keep excused (throw error : EStateM ε σ α) :=
  fun _ kept => ⟨kept, fine⟩

/-- Looking at the state changes nothing. -/
theorem get : Keeps keep excused (get : EStateM ε σ σ) :=
  fun _ kept => kept

/-- A change of the state keeps what it keeps of every state. -/
theorem modify {change : σ → σ} (still : ∀ state, keep state → keep (change state)) :
    Keeps keep excused (modify change : EStateM ε σ PUnit) :=
  still

/-- Two steps that keep a property keep it one after the other. -/
theorem bind {action : EStateM ε σ α} {next : α → EStateM ε σ β}
    (first : Keeps keep excused action) (second : ∀ result, Keeps keep excused (next result)) :
    Keeps keep excused (action >>= next) :=
  fun state kept => Ends.bind (first state kept) fun result after => second result after

/-- A result that is reached keeps what the step keeps. -/
theorem of_ok {action : EStateM ε σ α} (keeps : Keeps keep excused action) {state after : σ}
    {result : α} (kept : keep state) (ended : action state = .ok result after) : keep after := by
  have ends := keeps state kept
  rw [ended] at ends
  exact ends

end Keeps

end PrefixCalc
