import PrefixCalc.Proofs.Nesting
import PrefixCalc.Reading

/-!
# Nesting limits

Reading and evaluating each have a limit on how deep expressions nest. Wherever a
limit is not reached, a higher one gives the same answer: the same expression or
error and the same tokens left (`Parser.grows_expr`), the same outcome of a whole
text (`Reading.ofText_eq_of_le`), and the same value or fault, events and tables
(`Eval.grows_expr`).
-/

namespace PrefixCalc

namespace Reading

variable {low high : Nat}

/-- Larger budgets read whole buffers as smaller ones do, wherever these are not spent. -/
theorem ofBuffer_eq_of_le (enough : low ≤ high) {buffer : Buffer} {text : String}
    (unspent : (ofBuffer low buffer text).1 ≠ .error Parser.tooDeep) :
    ofBuffer high buffer text = ofBuffer low buffer text := by
  have settled : Settled Parser.tooDeep (Parser.expr low buffer) := by
    refine settled_iff.mpr fun rest spent => unspent ?_
    unfold ofBuffer
    rw [spent]
  have same : Parser.expr high buffer = Parser.expr low buffer :=
    Parser.grows_expr enough buffer settled
  unfold ofBuffer
  rw [same]

/-- Larger budgets read waiting tokens as smaller ones do, wherever these are not spent. -/
theorem ofWaiting_eq_of_le (enough : low ≤ high) {added : Nat} {buffer : Buffer} {text : String}
    (unspent : (ofWaiting low added buffer text).outcome ≠ .error Parser.tooDeep) :
    ofWaiting high added buffer text = ofWaiting low added buffer text := by
  unfold ofWaiting at unspent ⊢
  dsimp only at unspent ⊢
  by_cases awaits : Buffer.awaitsEnd buffer = true
  · rw [if_pos awaits, if_pos awaits]
  · rw [if_neg awaits] at unspent
    rw [if_neg awaits, if_neg awaits, ofBuffer_eq_of_le enough unspent]

/-- Larger budgets read texts as smaller ones do, wherever these are not spent. -/
theorem ofText_eq_of_le (enough : low ≤ high) {pending : Buffer} {text : String}
    (unspent : (ofText low pending text).outcome ≠ .error Parser.tooDeep) :
    ofText high pending text = ofText low pending text := by
  cases scanned : Token.scan text with
  | error error => rw [ofText_of_error scanned, ofText_of_error scanned]
  | ok tokens =>
    rw [ofText_of_ok scanned] at unspent
    rw [ofText_of_ok scanned, ofText_of_ok scanned, ofWaiting_eq_of_le enough unspent]

end Reading

/-- Nesting limits change nothing but whether they are reached: of two limits the higher one answers
as the lower one does, wherever that does not report its limit. -/
theorem higher_limit_answers_alike {low high : Nat} (enough : low ≤ high) :
    (∀ buffer, (∀ rest, Parser.expr low buffer ≠ .error (.refused .tooDeep) rest) →
      Parser.expr high buffer = Parser.expr low buffer) ∧
    (∀ pending text, (Reading.ofText low pending text).outcome ≠ .error (.refused .tooDeep) →
      Reading.ofText high pending text = Reading.ofText low pending text) ∧
    (∀ code run, (∀ after, Eval.expr low code run ≠ .error .tooDeep after) →
      Eval.expr high code run = Eval.expr low code run) ∧
    ∀ function arguments run,
      (∀ after, Eval.invoke (Eval.expr low) function arguments run ≠ .error .tooDeep after) →
      Eval.invoke (Eval.expr high) function arguments run =
        Eval.invoke (Eval.expr low) function arguments run := by
  refine ⟨fun buffer unspent => ?_, fun pending text => Reading.ofText_eq_of_le enough,
    fun code run unspent => ?_, fun function arguments run unspent => ?_⟩
  · exact Parser.grows_expr enough buffer (settled_iff.mpr unspent)
  · exact Eval.grows_expr code enough run (settled_iff.mpr unspent)
  · have inner : ∀ code, Extends .tooDeep (Eval.expr high code) (Eval.expr low code) :=
      fun code => Eval.grows_expr code enough
    exact Eval.extends_invoke inner function arguments run (settled_iff.mpr unspent)

/-- With a limit of three as with one of five hundred, a condition that is not closed is refused, and
a function prints its argument and fails at a variable that it does not have. -/
theorem higher_limit_answers_alike_unclosed :
    let buffer : Buffer := [⟨.ifMark, "if", 1⟩, ⟨.unaryOp, "neg", 4⟩, ⟨.identifier, "x", 8⟩]
    let function : Function := ⟨["x"], [.print (.get "x"), .get "y"]⟩
    let arguments := [Expr.define "z" (.literal (.boolean true))]
    3 ≤ 500 ∧
    (∀ rest, Parser.expr 3 buffer ≠ .error (.refused .tooDeep) rest) ∧
    Parser.expr 500 buffer = .error (.refused (.missingMark .thenMark)) [] ∧
    (∀ after, Eval.invoke (Eval.expr 3) function arguments {} ≠ .error .tooDeep after) ∧
    Eval.invoke (Eval.expr 500) function arguments {} =
      Eval.invoke (Eval.expr 3) function arguments {} := by
  intro buffer function arguments
  obtain ⟨reads, -, -, calls⟩ := @higher_limit_answers_alike 3 500 (by decide)
  have stopped : Parser.expr 3 buffer = .error (.refused (.missingMark .thenMark)) [] := rfl
  have failed : Eval.invoke (Eval.expr 3) function arguments {} =
    .error (.unknownVariable "y") _ := rfl
  have unspent : ∀ rest, Parser.expr 3 buffer ≠ .error (.refused .tooDeep) rest := by
    intro rest spent
    cases stopped.symm.trans spent
  have shallow : ∀ after, Eval.invoke (Eval.expr 3) function arguments {} ≠
      .error .tooDeep after := by
    intro after spent
    cases failed.symm.trans spent
  exact ⟨by decide, unspent, (reads buffer unspent).trans stopped, shallow,
    calls function arguments {} shallow⟩

end PrefixCalc
