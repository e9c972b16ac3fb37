import PrefixCalc.Fault
import PrefixCalc.Text.Quoted

/-!
# Escapes

Failures that are neither parse errors nor the faults of an evaluation. Nobody
handles them, so they end whatever was going on.
-/

namespace PrefixCalc

/-- A failure that no reading or evaluation accounts for. -/
inductive Escape where
  /-- A text ends in a refused blank. -/
  | strayBlank
  /-- A literal's word is no numeral. -/
  | unreadable (word : String)
  /-- A fault outside every evaluation. -/
  | fault (fault : Fault)

/-- The wording of an escape. -/
def Escape.message : Escape → String
  | .strayBlank => "list index out of range"
  | .unreadable word => "could not convert string to float: " ++ Text.quoted word
  | .fault cause => cause.message

end PrefixCalc
