import PrefixCalc.Fault
import PrefixCalc.Table
import PrefixCalc.Text.Column

/-!
# Variables

The variables of one call frame. A variable is defined once and may be changed
afterwards.
-/

namespace PrefixCalc

/-- The variables of one frame. -/
abbrev Variables := Table Value

namespace Variables

/-- The value of a variable. -/
def get (locals : Variables) (name : String) : Except Fault Value :=
  match locals.find? name with
  | some value => .ok value
  | none => .error (.unknownVariable name)

/-- The table with a new variable. -/
def define (locals : Variables) (name : String) (value : Value) : Except Fault Variables :=
  if locals.contains name then .error (.duplicateVariable name)
  else .ok (locals.insert name value)

/-- The table with a changed variable. -/
def assign (locals : Variables) (name : String) (value : Value) : Except Fault Variables :=
  if locals.contains name then .ok (locals.insert name value)
  else .error (.unknownVariable name)

/-- The table with new variables, defined one after another. -/
def defineAll (locals : Variables) : List (String × Value) → Except Fault Variables
  | [] => .ok locals
  | (name, value) :: rest => do defineAll (← locals.define name value) rest

/-- The variables and their values as rows. -/
def rows (locals : Variables) : List (String × String) :=
  locals.entries.map fun entry => (entry.1, entry.2.text)

/-- The variables and their values, line by line. -/
def listing (locals : Variables) : List String :=
  Text.columns ("var", "value") locals.rows

end Variables

end PrefixCalc
