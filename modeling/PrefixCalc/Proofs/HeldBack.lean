import Mathlib.Data.List.Induction
import PrefixCalc.Proofs.Lines

/-!
# Tokens that are held back

Whether tokens wait is decided by the first and the last of them: they start with
`def` and do not end in `end`. The structure of a definition is more than that. A
text that runs on behind the end of a definition is held back too, and this is the
only way in which tokens behind a definition come to wait
(`hasDefinition_pendingAfter_iff`). The beginning of a definition that ends in the
`end` of a function inside it is refused.
-/

namespace PrefixCalc

namespace Buffer

/-- Whether tokens, as they come from texts, are a function definition. -/
def IsDefinition (words : Buffer) : Prop :=
  Lexed words ∧ ∃ name parameters body, Derives words (.function name parameters body)

/-- Whether a function definition stands in front. -/
def HasDefinition (buffer : Buffer) : Prop :=
  ∃ words rest, buffer = words ++ rest ∧ IsDefinition words

/-- Whether a function definition goes on behind the tokens. -/
def BeginsDefinition (buffer : Buffer) : Prop :=
  ∃ more, more ≠ [] ∧ IsDefinition (buffer ++ more)

/-- Whether tokens complete a function definition behind those that wait, and run on behind it. -/
def RunsOn (pending tokens : Buffer) : Prop :=
  ∃ front back, tokens = front ++ back ∧ front ≠ [] ∧ back ≠ [] ∧ IsDefinition (pending ++ front)

variable {buffer pending tokens : Buffer}

/-- A function definition does not await its end. -/
theorem IsDefinition.awaitsEnd_eq_false (definition : IsDefinition buffer) :
    awaitsEnd buffer = false := by
  obtain ⟨-, name, parameters, body, derives⟩ := definition
  exact derives.awaitsEnd_eq_false

/-- No tokens are no function definition. -/
theorem not_hasDefinition_nil : ¬ HasDefinition [] := by
  rintro ⟨words, rest, split, -, name, parameters, body, derives⟩
  obtain ⟨rfl, rfl⟩ := List.append_eq_nil_iff.mp split.symm
  cases derives

/-- A function definition in front stays there when tokens are added. -/
theorem HasDefinition.append (stands : HasDefinition pending) (tokens : Buffer) :
    HasDefinition (pending ++ tokens) := by
  obtain ⟨words, rest, rfl, definition⟩ := stands
  exact ⟨words, rest ++ tokens, List.append_assoc .., definition⟩

/-- Tokens that run on behind a function definition leave it in front. -/
theorem RunsOn.hasDefinition (runsOn : RunsOn pending tokens) :
    HasDefinition (pending ++ tokens) := by
  obtain ⟨front, back, rfl, -, -, definition⟩ := runsOn
  exact ⟨pending ++ front, back, (List.append_assoc ..).symm, definition⟩

/-- A function definition in front of tokens that await an end stood there before, or the new tokens
run on behind it. -/
theorem HasDefinition.of_append (stands : HasDefinition (pending ++ tokens))
    (awaits : awaitsEnd (pending ++ tokens) = true) :
    HasDefinition pending ∨ RunsOn pending tokens := by
  obtain ⟨words, rest, split, definition⟩ := stands
  rcases List.append_eq_append_iff.mp split with ⟨front, rfl, rfl⟩ | ⟨back, rfl, rfl⟩
  · by_cases stop : front = []
    · rw [stop, List.append_nil] at definition
      exact .inl ⟨pending, [], (List.append_nil _).symm, definition⟩
    · refine .inr ⟨front, rest, rfl, stop, ?_, definition⟩
      -- A definition alone does not await its end.
      rintro rfl
      rw [List.append_nil, definition.awaitsEnd_eq_false] at awaits
      cases awaits
  · exact .inl ⟨words, back, rfl, definition⟩

/-- The beginning of a function definition is the beginning of a sentence. -/
theorem BeginsDefinition.beginsSentence (begins : BeginsDefinition buffer) :
    BeginsSentence buffer := by
  obtain ⟨more, some, lexed, name, parameters, body, derives⟩ := begins
  exact ⟨more, _, some, lexed.right, derives⟩

/-- The beginning of a function definition awaits its end unless it ends in `end`. -/
theorem BeginsDefinition.awaitsEnd_eq (begins : BeginsDefinition buffer) (some : buffer ≠ []) :
    awaitsEnd buffer = !endsWith buffer .endMark := by
  obtain ⟨more, -, -, name, parameters, body, derives⟩ := begins
  exact awaitsEnd_of_derives some derives

end Buffer

namespace Reading

/-! ## All histories -/

/-- What reading a text does to the waiting tokens. The tokens of the text are added and all of them
are held back, or else the waiting tokens are dropped or, at a stray blank, left alone. -/
theorem ofText_cases (budget : Nat) {pending : Buffer} (lexed : Buffer.Lexed pending)
    (text : String) :
    ((ofText budget pending text).outcome ≠ .ok none ∧
      ((ofText budget pending text).pending = [] ∨
        (ofText budget pending text).pending = pending)) ∨
    ∃ tokens, Token.scan text = .ok tokens ∧ Buffer.awaitsEnd (pending ++ tokens) = true ∧
      (ofText budget pending text).Holds (pending ++ tokens) := by
  cases scanned : Token.scan text with
  | error error =>
    left
    cases error <;> simp [ofText_of_error scanned, ofScanError]
  | ok tokens =>
    cases awaits : Buffer.awaitsEnd (pending ++ tokens) with
    | true => exact .inr ⟨tokens, rfl, awaits, holds_of_awaitsEnd scanned awaits⟩
    | false =>
      left
      have all := lexed.append (Token.scan_lexed scanned)
      have reads := ofText_of_not_awaitsEnd budget scanned awaits
      rw [reads.1, reads.2]
      rcases ofBuffer_cases budget all text with ⟨code, -, read⟩ | ⟨error, refused⟩
      · simp [read]
      · simp [refused]

/-- The tokens that wait after some texts and one more are those that reading the last one leaves. -/
theorem pendingAfter_concat (budget : Nat) (texts : List String) (text : String) :
    pendingAfter budget (texts ++ [text]) = (after budget texts text).pending := by
  rw [pendingAfter, List.foldl_append]
  rfl

/-- The waiting tokens are as they come from texts. -/
theorem lexed_pendingAfter (budget : Nat) (texts : List String) :
    Buffer.Lexed (pendingAfter budget texts) := by
  induction texts using List.reverseRecOn with
  | nil => exact Buffer.lexed_nil
  | append_singleton texts text ih =>
    rw [pendingAfter_concat, after]
    rcases ofText_cases budget ih text with ⟨-, dropped | kept⟩ | ⟨tokens, scanned, -, holds⟩
    · rw [dropped]
      exact Buffer.lexed_nil
    · rwa [kept]
    · rw [holds.2]
      exact ih.append (Token.scan_lexed scanned)

/-- Whether one of some texts, read one after another, ran on behind a function definition, and its
tokens wait still. -/
def RanOn (budget : Nat) (texts : List String) : Prop :=
  ∃ before text later tokens, texts = before ++ text :: later ∧ Token.scan text = .ok tokens ∧
    Buffer.RunsOn (pendingAfter budget before) tokens ∧
    pendingAfter budget before ++ tokens <+: pendingAfter budget texts

variable {budget : Nat} {texts : List String}

/-- A text that leaves the waiting tokens in front does not hide that a text ran on. -/
theorem RanOn.concat {text : String} (ran : RanOn budget texts)
    (kept : pendingAfter budget texts <+: pendingAfter budget (texts ++ [text])) :
    RanOn budget (texts ++ [text]) := by
  obtain ⟨before, piece, later, tokens, rfl, scanned, runsOn, wait⟩ := ran
  refine ⟨before, piece, later ++ [text], tokens, ?_, scanned, runsOn, wait.trans kept⟩
  rw [List.append_assoc, List.cons_append]

/-- Tokens wait behind a function definition only if a text ran on behind it. -/
theorem ranOn_of_hasDefinition (stands : (pendingAfter budget texts).HasDefinition) :
    RanOn budget texts := by
  induction texts using List.reverseRecOn with
  | nil => exact absurd stands Buffer.not_hasDefinition_nil
  | append_singleton texts text ih =>
    have step := pendingAfter_concat budget texts text
    rw [after] at step
    rcases ofText_cases budget (lexed_pendingAfter budget texts) text with
      ⟨-, dropped | kept⟩ | ⟨tokens, scanned, awaits, holds⟩
    · rw [step, dropped] at stands
      exact absurd stands Buffer.not_hasDefinition_nil
    · rw [step, kept] at stands
      apply (ih stands).concat
      exact ⟨[], by rw [step, kept, List.append_nil]⟩
    · rw [step, holds.2] at stands
      rcases stands.of_append awaits with earlier | runsOn
      · apply (ih earlier).concat
        exact ⟨tokens, by rw [step, holds.2]⟩
      · refine ⟨texts, text, [], tokens, rfl, scanned, runsOn, ?_⟩
        exact ⟨[], by rw [step, holds.2, List.append_nil]⟩

/-- A function definition stands in front of the waiting tokens if and only if a text ran on behind
it. -/
theorem hasDefinition_pendingAfter_iff :
    (pendingAfter budget texts).HasDefinition ↔ RanOn budget texts := by
  constructor
  · exact ranOn_of_hasDefinition
  · rintro ⟨before, text, later, tokens, -, -, runsOn, others, split⟩
    rw [← split]
    exact runsOn.hasDefinition.append others

/-- Tokens that are held back are no function definition, and one stands in front of them exactly if
a text ran on behind it. The beginning of a definition is held back, or refused if it ends in `end`.
-/
theorem held_back_by_marks (budget : Nat) (texts : List String) (text : String) :
    ((after budget texts text).outcome = .ok none →
      ¬ (after budget texts text).pending.IsDefinition ∧
      ((after budget texts text).pending.HasDefinition ↔ RanOn budget (texts ++ [text]))) ∧
    ∀ tokens, Token.scan text = .ok tokens → pendingAfter budget texts ++ tokens ≠ [] →
      (pendingAfter budget texts ++ tokens).BeginsDefinition →
      (Buffer.endsWith (pendingAfter budget texts ++ tokens) .endMark = false →
        (after budget texts text).Holds (pendingAfter budget texts ++ tokens)) ∧
      (Buffer.endsWith (pendingAfter budget texts ++ tokens) .endMark = true →
        (after budget texts text).Refuses) := by
  have lexed := lexed_pendingAfter budget texts
  constructor
  · intro held
    constructor
    · intro definition
      rcases ofText_cases budget lexed text with ⟨other, -⟩ | ⟨tokens, -, awaits, holds⟩
      · exact other held
      · rw [after, holds.2] at definition
        rw [definition.awaitsEnd_eq_false] at awaits
        cases awaits
    · rw [← pendingAfter_concat]
      exact hasDefinition_pendingAfter_iff
  · intro tokens scanned some begins
    have awaits := begins.awaitsEnd_eq some
    constructor
    · intro goesOn
      rw [goesOn] at awaits
      exact holds_of_awaitsEnd scanned awaits
    · intro ends
      rw [ends] at awaits
      have all := lexed.append (Token.scan_lexed scanned)
      exact refuses_of_beginsSentence scanned all begins.beginsSentence awaits

/-- A text that runs on behind a definition is held back although the definition is complete, and the
beginning of a definition that ends with a function inside it is refused although it can go on. -/
theorem held_back_against_structure :
    let complete : Buffer := [⟨.function, "def", 1⟩, ⟨.identifier, "f", 5⟩, ⟨.beginMark, "begin", 7⟩,
      ⟨.identifier, "x", 13⟩, ⟨.endMark, "end", 15⟩]
    let nested : Buffer := [⟨.function, "def", 1⟩, ⟨.identifier, "f", 5⟩, ⟨.beginMark, "begin", 7⟩,
      ⟨.function, "def", 13⟩, ⟨.identifier, "g", 17⟩, ⟨.beginMark, "begin", 19⟩,
      ⟨.identifier, "x", 25⟩, ⟨.endMark, "end", 27⟩]
    (complete.IsDefinition ∧ (after Parser.nestingLimit [] "def f begin x end y").Holds
      (complete ++ [⟨.identifier, "y", 19⟩])) ∧
    (nested.BeginsDefinition ∧ Token.scan "def f begin def g begin x end" = .ok nested ∧
      (after Parser.nestingLimit [] "def f begin def g begin x end").Refuses) := by
  intro complete nested
  constructor
  · have read : Parser.expr 3 complete = .ok (.function "f" [] [.get "x"]) [] := rfl
    have scanned : Token.scan "def f begin x end y" =
        .ok (complete ++ [⟨.identifier, "y", 19⟩]) := rfl
    exact ⟨⟨by decide +kernel, _, _, _, Derives.of_expr_eq_ok read⟩,
      holds_of_awaitsEnd scanned rfl⟩
  · have scanned : Token.scan "def f begin def g begin x end" = .ok nested := rfl
    have read : Parser.expr 4 (nested ++ [⟨.endMark, "end", 31⟩]) =
        .ok (.function "f" [] [.function "g" [] [.get "x"]]) [] := rfl
    have begins : nested.BeginsDefinition :=
      ⟨[⟨.endMark, "end", 31⟩], List.cons_ne_nil _ _, by decide +kernel, _, _, _,
        Derives.of_expr_eq_ok read⟩
    exact ⟨begins, scanned,
      refuses_of_beginsSentence scanned (Token.scan_lexed scanned) begins.beginsSentence rfl⟩

end Reading

end PrefixCalc
