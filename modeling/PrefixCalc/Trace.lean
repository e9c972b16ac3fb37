import PrefixCalc.Fault

/-!
# Traces

Steps on the way that a user sees only on demand.
-/

namespace PrefixCalc

/-- A step worth noting to whoever looks for a mistake. -/
inductive Trace where
  /-- A text gave so many tokens, and so many are waiting now. -/
  | scanned (count pending : Nat)
  /-- A definition waits for its end. -/
  | heldBack
  /-- A definition was refused. -/
  | rejected (recursion : Recursion)
  /-- A function was installed. -/
  | installed (name : String) (parameters : List String)

/-- The wording of a trace. -/
def Trace.line : Trace → String
  | .scanned count pending => s!"DEBUG:lexer:tokenized {count} token(s), {pending} pending"
  | .heldBack => "DEBUG:parser:partial function definition, waiting for 'end'"
  | .rejected (.self name) => s!"DEBUG:semantic:rejecting {name}: calls itself"
  | .rejected (.dual name other) =>
    s!"DEBUG:semantic:rejecting {name}: mutual recursion with {other}"
  | .rejected (.cross name other) =>
    s!"DEBUG:semantic:rejecting {name}: reached again through {other}"
  | .installed name parameters =>
    s!"DEBUG:evaluator:installed function {name}(" ++ ", ".intercalate parameters ++ ")"

end PrefixCalc
