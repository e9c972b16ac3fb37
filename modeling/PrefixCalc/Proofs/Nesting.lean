import PrefixCalc.Proofs.Budget
import PrefixCalc.Proofs.Grammar

/-!
# Nesting budgets of the parser

How deep expressions may nest is a budget of the parser. A larger one reads every
buffer as a smaller one does, results, errors and remaining tokens alike, unless the
smaller one was spent (`grows_expr`).
-/

namespace PrefixCalc.Parser

variable {α : Type}

/-- Where reading stops because expressions nest too deep. -/
abbrev tooDeep : Stop := .refused .tooDeep

/-- Items are read as they are if each of them is. -/
theorem extends_itemsUntil {larger smaller : Parser α} (item : Extends tooDeep larger smaller)
    (close : Kind) (unclosed : ParseError) :
    Extends tooDeep (itemsUntil larger close unclosed) (itemsUntil smaller close unclosed) := by
  have rounds : ∀ count, Extends tooDeep (itemsUntil.rounds larger close unclosed count)
      (itemsUntil.rounds smaller close unclosed count) := by
    intro count
    induction count with
    | zero => exact Extends.refl _
    | succ count ih =>
      intro buffer settled
      cases buffer with
      | nil => rfl
      | cons token rest =>
        rw [rounds_cons] at settled ⊢
        rw [rounds_cons]
        split at settled
        · rename_i closes
          rw [if_pos closes, if_pos closes]
        · rename_i goesOn
          rw [if_neg goesOn, if_neg goesOn]
          exact Extends.bind item (fun first => Extends.bind ih fun others => Extends.refl _)
            (token :: rest) settled
  exact Extends.bind (Extends.refl get) fun buffer => rounds (buffer.length + 1)

section

variable {larger smaller : Parser Expr}

/-- Function definitions are read as they are if the expressions of their bodies are. -/
theorem extends_function (inner : Extends tooDeep larger smaller) :
    Extends tooDeep (function larger) (function smaller) := by
  refine Extends.bind (Extends.refl _) fun name => Extends.bind (Extends.refl _) fun parameters => ?_
  exact Extends.bind (extends_itemsUntil inner _ _) fun body => Extends.refl _

/-- Calls are read as they are if their arguments are. -/
theorem extends_call (inner : Extends tooDeep larger smaller) :
    Extends tooDeep (call larger) (call smaller) :=
  Extends.bind (Extends.refl _) fun _ => Extends.bind (extends_itemsUntil inner _ _) fun _ =>
    Extends.refl _

/-- Conditions are read as they are if their parts are. -/
theorem extends_condition (inner : Extends tooDeep larger smaller) :
    Extends tooDeep (condition larger) (condition smaller) := by
  refine Extends.bind inner fun test => Extends.bind (Extends.refl _) fun _ => ?_
  refine Extends.bind inner fun whenTrue => Extends.bind (Extends.refl _) fun closed => ?_
  cases closed with
  | true => exact Extends.refl _
  | false => exact Extends.bind inner fun whenFalse => Extends.refl _

/-- What a token opens is read as it is if the expressions inside are. -/
theorem extends_form (inner : Extends tooDeep larger smaller) (token : Token) :
    Extends tooDeep (form larger token) (form smaller token) := by
  unfold form
  cases token.kind with
  | define =>
    exact Extends.bind (Extends.refl _) fun name => Extends.bind inner fun value => Extends.refl _
  | assign =>
    exact Extends.bind (Extends.refl _) fun name => Extends.bind inner fun value => Extends.refl _
  | binaryOp =>
    cases BinaryOp.ofSymbol? token.lexeme with
    | some operator =>
      exact Extends.bind inner fun left => Extends.bind inner fun right => Extends.refl _
    | none => exact Extends.refl _
  | unaryOp =>
    cases UnaryOp.ofSymbol? token.lexeme with
    | some operator => exact Extends.bind inner fun operand => Extends.refl _
    | none => exact Extends.refl _
  | special =>
    dsimp only
    split
    · exact Extends.bind inner fun value => Extends.refl _
    · exact Extends.refl _
  | function => exact extends_function inner
  | call => exact extends_call inner
  | ifMark => exact extends_condition inner
  | _ => exact Extends.refl _

end

/-- Larger budgets read as smaller ones do, wherever these are not spent. -/
theorem grows_expr : Grows tooDeep expr := by
  intro low high enough
  induction low generalizing high with
  | zero => exact Extends.of_throw _
  | succ low ih =>
    obtain ⟨high, rfl⟩ : ∃ larger, high = larger + 1 := ⟨high - 1, by omega⟩
    intro buffer settled
    cases buffer with
    | nil => rfl
    | cons token rest =>
      rw [expr_cons] at settled ⊢
      exact extends_form (ih (by omega)) token rest settled

end PrefixCalc.Parser
