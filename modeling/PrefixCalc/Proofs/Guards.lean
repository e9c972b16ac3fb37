import PrefixCalc.Expr.Calls
import PrefixCalc.Proofs.Parsing
import PrefixCalc.Proofs.Trimmed
import PrefixCalc.Reading

/-!
# Guards that no text meets

The parser guards against tokens that no text gives: foreign kinds, and words that
do not fit their kind. Tokens as they come from texts never meet these guards
(`orderly_expr`), and the expressions that are read have no gaps, since sentences
stand for them. So a text that does not end in a blank is read, held back or
refused for what it says (`sound_ofText`).
-/

namespace PrefixCalc

/-- Whether reading stops with a parse error that is no guard. -/
def Stop.IsOrdinary : Stop → Prop
  | .refused error => error.isGuard = false
  | .escaped _ => False

/-- Whether all tokens have the kinds of their words. -/
def Buffer.Lexed (buffer : Buffer) : Prop :=
  ∀ token ∈ buffer, token.Lexed

/-- Without tokens there is nothing to show. -/
theorem Buffer.lexed_nil : Buffer.Lexed [] :=
  fun _ inside => absurd inside List.not_mem_nil

/-- What follows the first token is as it comes from texts if all tokens are. -/
theorem Buffer.Lexed.tail {token : Token} {rest : Buffer} (lexed : Buffer.Lexed (token :: rest)) :
    Buffer.Lexed rest :=
  fun other inside => lexed other (List.mem_cons_of_mem token inside)

/-- Tokens as they come from texts stay so one list behind the other. -/
theorem Buffer.Lexed.append {front back : Buffer} (first : Buffer.Lexed front)
    (second : Buffer.Lexed back) : Buffer.Lexed (front ++ back) :=
  fun token inside => (List.mem_append.mp inside).elim (first token) (second token)

namespace Parser

variable {α : Type}

/-- Whether a parser stops at no guard and with no escape on tokens as they come from texts. -/
def Orderly (action : Parser α) : Prop :=
  Keeps Buffer.Lexed Stop.IsOrdinary action

/-- Tokens as they come from texts stay so, and their words fit, so that no guard is met. -/
theorem lexed_discipline : Discipline Buffer.Lexed Stop.IsOrdinary where
  tail := Buffer.Lexed.tail
  plain := ParseError.isGuard_of_isPlain
  unfit lexed unfit _ := absurd (lexed _ List.mem_cons_self).fits unfit

/-- Taking an expression is orderly, whatever the budget. -/
theorem orderly_expr (budget : Nat) : Orderly (expr budget) :=
  lexed_discipline.keeps_expr rfl budget

end Parser

namespace Expr

/-- Whether some sentence stands for an expression. -/
def Written (code : Expr) : Prop :=
  ∃ words, Derives words code

/-- No sentence stands for a gap. -/
theorem not_written_gap (gap : Gap) : ¬ (Expr.gap gap).Written := by
  rintro ⟨words, derives⟩
  cases derives

/-- Sentences stand for the parts of what a sentence stands for. -/
theorem Written.part {code part : Expr} (written : code.Written) (inside : part ∈ code.parts) :
    part.Written := by
  obtain ⟨words, derives⟩ := written
  cases derives with
  | literal | constant | get | function => cases inside
  | define _ _ value | assign _ _ value | unary _ _ value | print _ value =>
    rw [List.mem_singleton.mp inside]
    exact ⟨_, value⟩
  | binary _ _ left right =>
    simp only [parts, List.mem_cons, List.not_mem_nil, or_false] at inside
    rcases inside with rfl | rfl
    · exact ⟨_, left⟩
    · exact ⟨_, right⟩
  | call _ _ stood _ =>
    obtain ⟨item, listed, rfl⟩ := List.mem_map.mp inside
    exact ⟨item.1, stood item listed⟩
  | chooseOne _ condition _ whenTrue _ =>
    simp only [parts, List.mem_cons, List.not_mem_nil, or_false] at inside
    rcases inside with rfl | rfl | rfl
    · exact ⟨_, condition⟩
    · exact ⟨_, whenTrue⟩
    · exact ⟨[⟨.literal, "false", 1⟩], .literal rfl .falsehood⟩
  | chooseTwo _ condition _ whenTrue _ whenFalse _ =>
    simp only [parts, List.mem_cons, List.not_mem_nil, or_false] at inside
    rcases inside with rfl | rfl | rfl
    · exact ⟨_, condition⟩
    · exact ⟨_, whenTrue⟩
    · exact ⟨_, whenFalse⟩

/-- Sentences stand for what is in the body of a function definition if one stands for the
definition. -/
theorem Written.body {name : String} {parameters : List String} {body : List Expr} {code : Expr}
    (written : (Expr.function name parameters body).Written) (inside : code ∈ body) :
    code.Written := by
  obtain ⟨words, derives⟩ := written
  cases derives with
  | function _ _ _ _ stood _ =>
    obtain ⟨item, listed, rfl⟩ := List.mem_map.mp inside
    exact ⟨item.1, stood item listed⟩

end Expr

namespace Reading

/-- What holds of every reading of a text that does not end in a blank. -/
structure Sound (reading : Reading) : Prop where
  /-- The waiting tokens are as they come from texts. -/
  pending : Buffer.Lexed reading.pending
  /-- A sentence stands for the expression. -/
  written : ∀ code, reading.outcome = .ok (some code) → code.Written
  /-- Reading stops at no guard and with no escape. -/
  ordinary : ∀ stop, reading.outcome = .error stop → stop.IsOrdinary

/-- A reading that stops in an ordinary way and leaves no tokens is sound. -/
theorem sound_of_isOrdinary {stop : Stop} (ordinary : stop.IsOrdinary) (traces : List Trace) :
    Sound ⟨.error stop, [], traces⟩ := by
  refine ⟨Buffer.lexed_nil, nofun, ?_⟩
  rintro _ ⟨⟩
  exact ordinary

/-- Reading a whole buffer of tokens as they come from texts is sound. -/
theorem sound_ofBuffer (budget : Nat) {buffer : Buffer} (lexed : Buffer.Lexed buffer)
    (text : String) (traces : List Trace) :
    Sound ⟨(ofBuffer budget buffer text).1, (ofBuffer budget buffer text).2, traces⟩ := by
  have ends := Parser.orderly_expr budget buffer lexed
  unfold ofBuffer
  split
  · rename_i code read
    refine ⟨Buffer.lexed_nil, ?_, nofun⟩
    rintro _ ⟨⟩
    obtain ⟨words, -, derives⟩ := Parser.derives_of_expr_eq_ok budget read
    exact ⟨words, derives⟩
  · refine sound_of_isOrdinary ?_ traces
    exact rfl
  · rename_i error rest read
    rw [read] at ends
    exact sound_of_isOrdinary ends.2 traces
  · rename_i escape rest read
    rw [read] at ends
    exact ends.2.elim

/-- Reading waiting tokens as they come from texts is sound. -/
theorem sound_ofWaiting (budget added : Nat) {buffer : Buffer} (lexed : Buffer.Lexed buffer)
    (text : String) : Sound (ofWaiting budget added buffer text) := by
  unfold ofWaiting
  dsimp only
  split
  · exact ⟨lexed, nofun, nofun⟩
  · exact sound_ofBuffer budget lexed text _

/-- Reading a text that does not end in a blank is sound, behind tokens as they come from texts. -/
theorem sound_ofText (budget : Nat) {pending : Buffer} (lexed : Buffer.Lexed pending)
    {text : String} (unpadded : Text.Unpadded text.toList) :
    Sound (ofText budget pending text) := by
  cases scanned : Token.scan text with
  | error error =>
    rw [ofText_of_error scanned]
    cases error with
    | invalidWord word =>
      refine sound_of_isOrdinary ?_ []
      exact rfl
    | strayBlank => exact absurd scanned (Token.scan_ne_strayBlank unpadded)
  | ok tokens =>
    rw [ofText_of_ok scanned]
    exact sound_ofWaiting budget tokens.length (lexed.append (Token.scan_lexed scanned)) text

end Reading

end PrefixCalc
