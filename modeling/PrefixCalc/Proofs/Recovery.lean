import PrefixCalc.Proofs.HeldBack

/-!
# Reading on after an error

Reading a text has four ends: an expression is complete, the text is refused, the
tokens are held back, or a stray blank is met (`ofText_ends`). The first two drop
all tokens, so nothing of them is left to disturb what is read afterwards; the
third leaves a definition that is open, and the last leaves all as it was.
-/

namespace PrefixCalc

/-- What holds of the tokens that wait between two texts. -/
structure Buffer.Waiting (buffer : Buffer) : Prop where
  /-- Every token has the kind of its word. -/
  lexed : Buffer.Lexed buffer
  /-- If there are any, the first opens a function definition and the last is no `end`. -/
  isOpen : buffer = [] ∨
    Buffer.startsWith buffer .function = true ∧ Buffer.endsWith buffer .endMark = false

namespace Buffer

/-- No tokens may wait. -/
theorem waiting_nil : Waiting [] :=
  ⟨lexed_nil, .inl rfl⟩

/-- Tokens that await the end of a definition start with the token that opens one and do not end in
`end`. -/
theorem awaitsEnd_iff {buffer : Buffer} :
    awaitsEnd buffer = true ↔
      startsWith buffer .function = true ∧ endsWith buffer .endMark = false := by
  rw [awaitsEnd, Bool.and_eq_true, Bool.not_eq_true']

/-- There are tokens that await the end of a definition. -/
theorem ne_nil_of_awaitsEnd {buffer : Buffer} (awaits : awaitsEnd buffer = true) : buffer ≠ [] := by
  rintro rfl
  have starts : startsWith [] .function = true := (awaitsEnd_iff.mp awaits).1
  cases starts

end Buffer

namespace Reading

variable {budget : Nat} {pending : Buffer}

/-- The ends that reading a text has, behind tokens as they come from texts. -/
theorem ofText_ends (budget : Nat) (lexed : Buffer.Lexed pending) (text : String) :
    (∃ code, code.Written ∧ (ofText budget pending text).Completes code) ∨
    (ofText budget pending text).Refuses ∨
    (∃ buffer, Buffer.Lexed buffer ∧ Buffer.awaitsEnd buffer = true ∧
      (ofText budget pending text).Holds buffer) ∨
    ((ofText budget pending text).outcome = .error (.escaped .strayBlank) ∧
      (ofText budget pending text).pending = pending) := by
  cases scanned : Token.scan text with
  | error error =>
    cases error with
    | invalidWord word =>
      right; left
      have refused : (ofText budget pending text).outcome =
          .error (.refused (.invalidWord word)) := by simp [ofText_of_error scanned, ofScanError]
      exact ⟨⟨_, refused⟩, by simp [ofText_of_error scanned, ofScanError]⟩
    | strayBlank =>
      right; right; right
      simp [ofText_of_error scanned, ofScanError]
  | ok tokens =>
    have all : Buffer.Lexed (pending ++ tokens) := lexed.append (Token.scan_lexed scanned)
    cases awaits : Buffer.awaitsEnd (pending ++ tokens) with
    | true =>
      right; right; left
      exact ⟨pending ++ tokens, all, awaits, holds_of_awaitsEnd scanned awaits⟩
    | false =>
      have reads := ofText_of_not_awaitsEnd budget scanned awaits
      rcases ofBuffer_cases budget all text with ⟨code, parsed, read⟩ | ⟨error, refused⟩
      · left
        rw [read] at reads
        have written : code.Written := ⟨pending ++ tokens, Derives.of_expr_eq_ok parsed⟩
        exact ⟨code, written, reads⟩
      · right; left
        rw [refused] at reads
        exact ⟨⟨error, reads.1⟩, reads.2⟩

/-- Reading a text leaves tokens that may wait if it finds such tokens. -/
theorem waiting_ofText (budget : Nat) (waiting : Buffer.Waiting pending) (text : String) :
    Buffer.Waiting (ofText budget pending text).pending := by
  rcases ofText_ends budget waiting.lexed text with
    ⟨code, -, completes⟩ | refuses | ⟨buffer, lexed, awaits, holds⟩ | ⟨-, same⟩
  · rw [completes.2]
    exact Buffer.waiting_nil
  · rw [refuses.2]
    exact Buffer.waiting_nil
  · rw [holds.2]
    exact ⟨lexed, .inr (Buffer.awaitsEnd_iff.mp awaits)⟩
  · rwa [same]

/-- After any texts the tokens that are left may wait. -/
theorem waiting_pendingAfter (budget : Nat) (texts : List String) :
    Buffer.Waiting (pendingAfter budget texts) := by
  induction texts using List.reverseRecOn with
  | nil => exact Buffer.waiting_nil
  | append_singleton texts text ih =>
    rw [pendingAfter_concat]
    exact waiting_ofText budget ih text

/-- Behind a text that leaves no tokens, others are read as from the start. -/
theorem after_of_pending_eq_nil {texts : List String} {text : String}
    (dropped : (after budget texts text).pending = []) (later : List String) (other : String) :
    after budget (texts ++ text :: later) other = after budget later other := by
  have fresh : pendingAfter budget (texts ++ text :: later) = pendingAfter budget later := by
    rw [List.append_cons, pendingAfter, List.foldl_append, ← pendingAfter, pendingAfter_concat,
      dropped, pendingAfter]
  rw [after, fresh, after]

/-- Reading recovers from every error. A text that completes an expression and a text that is
refused both leave no tokens; what is held back opens a definition without its end; a stray blank
leaves the tokens as they were. -/
theorem reads_on_after_errors (budget : Nat) (texts : List String) (text : String) :
    Buffer.Waiting (after budget texts text).pending ∧
    ((∃ code, (after budget texts text).outcome = .ok (some code)) ∨
      (∃ error, (after budget texts text).outcome = .error (.refused error)) →
      (after budget texts text).pending = [] ∧
        ∀ later other, after budget (texts ++ text :: later) other = after budget later other) ∧
    (∀ gap, (after budget texts text).outcome ≠ .ok (some (.gap gap))) ∧
    ((after budget texts text).outcome = .ok none ↔
      (∃ code?, (after budget texts text).outcome = .ok code?) ∧
        (after budget texts text).pending ≠ []) ∧
    ∀ escape, (after budget texts text).outcome = .error (.escaped escape) →
      escape = .strayBlank ∧ (after budget texts text).pending = pendingAfter budget texts := by
  have waiting := waiting_pendingAfter budget texts
  refine ⟨waiting_ofText budget waiting text, ?_⟩
  have fresh := @after_of_pending_eq_nil budget texts text
  have ends := ofText_ends budget waiting.lexed text
  rw [← after] at ends
  generalize after budget texts text = reading at ends fresh ⊢
  rcases ends with ⟨code, written, completed, dropped⟩ | ⟨⟨error, refused⟩, dropped⟩ |
    ⟨buffer, -, awaits, held, left⟩ | ⟨escaped, same⟩
  · have noGap : ∀ gap, code ≠ .gap gap := by
      rintro gap rfl
      exact Expr.not_written_gap gap written
    simp [completed, dropped, fresh dropped, noGap]
  · simp [refused, dropped, fresh dropped]
  · simp [held, left, Buffer.ne_nil_of_awaitsEnd awaits]
  · simp [escaped, same]

-- A text that ends in a blank which is no space leaves the tokens; one with a bad word drops them.
example :
    (pendingAfter 9 ["def f begin", "1\u00a0"]).map Token.lexeme = ["def", "f", "begin"] ∧
      (pendingAfter 9 ["def f begin", "$ 1", "def g"]).map Token.lexeme = ["def", "g"] := by
  decide +kernel

end Reading

end PrefixCalc
