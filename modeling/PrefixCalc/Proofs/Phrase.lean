import PrefixCalc.Proofs.Guards
import PrefixCalc.Proofs.Acceptance

/-!
# Phrases and what errors foretell about them

A phrase says which tokens stand for which results; the grammar is made of phrases
that follow one another and of items up to a closing token. A parser `Foresees` a
phrase if its errors tell the two ways of failing apart: the tokens came to an end
and more of them can complete the phrase, or no tokens at the end can mend it.
`Foresees.bind` and `Foresees.itemsUntil` carry this from the parts of a phrase to
the whole.
-/

namespace PrefixCalc

/-- Whether an error says that the tokens came to an end too early. -/
def ParseError.isOutOfTokens : ParseError → Bool
  | .expectingToken | .unnamedDefinition | .unnamedAssignment | .unnamedFunction
  | .openParameters | .openBody | .unnamedCall | .openArguments | .missingMark _ => true
  | _ => false

instance (buffer : Buffer) : Decidable (Buffer.Lexed buffer) :=
  inferInstanceAs (Decidable (∀ token ∈ buffer, token.Lexed))

/-- A token as it comes from a text stays so alone. -/
theorem Buffer.lexed_singleton {token : Token} (lexed : token.Lexed) : Buffer.Lexed [token] :=
  List.forall_mem_singleton.mpr lexed

namespace Buffer.Lexed

variable {front back : Buffer}

/-- What stands in front is as it comes from texts if all tokens are. -/
theorem left (lexed : Buffer.Lexed (front ++ back)) : Buffer.Lexed front :=
  fun token inside => lexed token (List.mem_append_left back inside)

/-- What stands behind is as it comes from texts if all tokens are. -/
theorem right (lexed : Buffer.Lexed (front ++ back)) : Buffer.Lexed back :=
  fun token inside => lexed token (List.mem_append_right front inside)

end Buffer.Lexed

/-- Which tokens stand for which results. -/
abbrev Phrase (α : Type) := List Token → α → Prop

namespace Phrase

variable {α β : Type} {phrase : Phrase α} {follower : α → Phrase β}

/-- Whether more tokens at the end can make the phrase of some tokens. -/
def Completable (phrase : Phrase α) (buffer : Buffer) : Prop :=
  ∃ more result, Buffer.Lexed more ∧ phrase (buffer ++ more) result

/-- Whether the phrase does not stand in front of some tokens, whatever is added at the end. -/
def Hopeless (phrase : Phrase α) (buffer : Buffer) : Prop :=
  ∀ ⦃more words rest result⦄, Buffer.Lexed more → buffer ++ more = words ++ rest →
    ¬ phrase words result

/-- Whether the phrase stands in front of tokens in one way at most, for one result. -/
def Unambiguous (phrase : Phrase α) : Prop :=
  ∀ ⦃words rest others otherRest result other⦄, Buffer.Lexed (words ++ rest) →
    words ++ rest = others ++ otherRest → phrase words result → phrase others other →
    words = others ∧ result = other

/-! ## Ways to build phrases -/

/-- No tokens stand for a result that is known. -/
def known (result : α) : Phrase α :=
  fun words other => words = [] ∧ other = result

/-- One token stands for the result that `read` gives it. -/
def single (read : Token → Option α) : Phrase α :=
  fun words result => ∃ token, words = [token] ∧ read token = some result

/-- One phrase and then another, which may depend on the result of the first. -/
def followedBy (phrase : Phrase α) (follower : α → Phrase β) : Phrase β :=
  fun words result => ∃ front back middle, words = front ++ back ∧ phrase front middle ∧
    follower middle back result

/-- Items one after another, and a token of kind `close` after them. -/
def upTo (item : Phrase α) (close : Kind) : Phrase (List α) :=
  fun words items => ∃ (pairs : List (List Token × α)) (stop : Token),
    words = pairs.flatMap Prod.fst ++ [stop] ∧ stop.kind = close ∧ items = pairs.map Prod.snd ∧
      ∀ pair ∈ pairs, item pair.1 pair.2

/-- Whether the phrase starts with a token that is not of a kind. -/
def Avoids (phrase : Phrase α) (kind : Kind) : Prop :=
  ∀ ⦃words result⦄, phrase words result → ∃ token tail, words = token :: tail ∧ token.kind ≠ kind

/-- A known result needs no more tokens. -/
theorem completable_known (result : α) : Completable (known result) [] :=
  ⟨[], result, Buffer.lexed_nil, rfl, rfl⟩

/-- There is one way for no tokens to stand for a known result. -/
theorem unambiguous_known (result : α) : Unambiguous (known result) := by
  rintro words rest others otherRest result other - - ⟨rfl, rfl⟩ ⟨rfl, rfl⟩
  exact ⟨rfl, rfl⟩

/-- There is one way for a token to stand in front. -/
theorem unambiguous_single (read : Token → Option α) : Unambiguous (single read) := by
  rintro words rest others otherRest result other - same ⟨token, rfl, found⟩ ⟨_, rfl, foundOther⟩
  cases same
  exact ⟨rfl, Option.some.inj (found.symm.trans foundOther)⟩

/-- Phrases one after another are unambiguous if each of them is. -/
theorem Unambiguous.followedBy (first : Unambiguous phrase)
    (second : ∀ middle, Unambiguous (follower middle)) : Unambiguous (phrase.followedBy follower) := by
  rintro words rest others otherRest result other lexed same
    ⟨front, back, middle, rfl, stood, stoodNext⟩ ⟨front', back', middle', rfl, stood', stoodNext'⟩
  rw [List.append_assoc] at lexed
  rw [List.append_assoc, List.append_assoc] at same
  obtain ⟨rfl, rfl⟩ := first lexed same stood stood'
  obtain ⟨rfl, rfl⟩ := second middle lexed.right (List.append_cancel_left same) stoodNext stoodNext'
  exact ⟨rfl, rfl⟩

/-- A closing token alone closes a list without items. -/
theorem upTo_stop {item : Phrase α} {close : Kind} {stop : Token} (closes : stop.kind = close) :
    item.upTo close [stop] [] :=
  ⟨[], stop, rfl, closes, rfl, fun _ inside => absurd inside List.not_mem_nil⟩

/-- One more item stands in front of the others. -/
theorem upTo_cons {item : Phrase α} {close : Kind} {front back : List Token} {first : α}
    {others : List α} (stood : item front first) (stoodOthers : item.upTo close back others) :
    item.upTo close (front ++ back) (first :: others) := by
  obtain ⟨pairs, stop, rfl, closes, rfl, stoodAll⟩ := stoodOthers
  refine ⟨(front, first) :: pairs, stop, ?_, closes, rfl, ?_⟩
  · rw [List.flatMap_cons, List.append_assoc]
  · intro pair inside
    rcases List.mem_cons.mp inside with rfl | inside
    · exact stood
    · exact stoodAll pair inside

/-- A list of items is closed at once or starts with an item. -/
theorem upTo_cases {item : Phrase α} {close : Kind} {words : List Token} {items : List α}
    (stood : item.upTo close words items) :
    (∃ stop, words = [stop] ∧ stop.kind = close ∧ items = []) ∨
      ∃ front back first others, words = front ++ back ∧ items = first :: others ∧
        item front first ∧ item.upTo close back others := by
  obtain ⟨pairs, stop, rfl, closes, rfl, stoodAll⟩ := stood
  cases pairs with
  | nil => exact .inl ⟨stop, rfl, closes, rfl⟩
  | cons pair pairs =>
    refine .inr ⟨pair.1, pairs.flatMap Prod.fst ++ [stop], pair.2, pairs.map Prod.snd, ?_, rfl,
      stoodAll pair List.mem_cons_self, pairs, stop, rfl, closes, rfl,
      fun other inside => stoodAll other (List.mem_cons_of_mem pair inside)⟩
    rw [List.flatMap_cons, List.append_assoc]

/-- An item and the others after it are a list of items. -/
theorem upTo_of_followedBy {item : Phrase α} {close : Kind} {words : List Token} {items : List α}
    (stood : item.followedBy (fun first => (item.upTo close).followedBy fun others =>
      known (first :: others)) words items) : item.upTo close words items := by
  obtain ⟨front, _, first, rfl, stoodFirst, back, _, others, rfl, later, rfl, rfl⟩ := stood
  rw [List.append_nil]
  exact upTo_cons stoodFirst later

/-- A list of items that is not closed at once is an item and the others after it. -/
theorem followedBy_of_upTo {item : Phrase α} {close : Kind} {words : List Token} {items : List α}
    (notClosed : ∀ stop : Token, words = [stop] → stop.kind ≠ close)
    (stood : item.upTo close words items) :
    item.followedBy (fun first => (item.upTo close).followedBy fun others =>
      known (first :: others)) words items := by
  rcases upTo_cases stood with
    ⟨stop, alone, closes, -⟩ | ⟨front, back, first, others, rfl, rfl, stoodFirst, later⟩
  · exact absurd closes (notClosed stop alone)
  · exact ⟨front, back, first, rfl, stoodFirst, back, [], others, (List.append_nil back).symm, later,
      rfl, rfl⟩

/-- A list of items does not start as an item does where it is closed at once. -/
theorem Avoids.not_closed {item : Phrase α} {close : Kind} (avoids : Avoids item close)
    {front back rest : List Token} {first : α} {stop : Token} (stood : item front first)
    (closes : stop.kind = close) : stop :: rest ≠ front ++ back := by
  intro same
  obtain ⟨token, tail, rfl, different⟩ := avoids stood
  cases same
  exact different closes

/-- Lists of items are unambiguous if the items are and none starts with a closing token. -/
theorem Unambiguous.upTo {item : Phrase α} {close : Kind} (one : Unambiguous item)
    (avoids : Avoids item close) : Unambiguous (item.upTo close) := by
  intro words rest others otherRest items otherItems lexed same stood stoodOther
  -- Both lists start alike: where one is closed at once the other cannot start with an item.
  induction items generalizing words others otherItems with
  | nil =>
    rcases upTo_cases stood with ⟨stop, rfl, closes, -⟩ | ⟨_, _, _, _, _, impossible, _⟩
    · rcases upTo_cases stoodOther with
        ⟨stop', rfl, -, rfl⟩ | ⟨front, back, first, _, rfl, _, stoodFirst, _⟩
      · cases same
        exact ⟨rfl, rfl⟩
      · rw [List.append_assoc] at same
        exact absurd same (avoids.not_closed stoodFirst closes)
    · cases impossible
  | cons first items ih =>
    rcases upTo_cases stood with
      ⟨_, _, _, impossible⟩ | ⟨front, back, _, _, rfl, ⟨⟩, stoodFirst, later⟩
    · cases impossible
    · rcases upTo_cases stoodOther with
        ⟨stop', rfl, closes, rfl⟩ | ⟨front', back', _, _, rfl, rfl, stoodFirst', later'⟩
      · rw [List.append_assoc] at same
        exact absurd same.symm (avoids.not_closed stoodFirst closes)
      · rw [List.append_assoc] at lexed
        rw [List.append_assoc, List.append_assoc] at same
        obtain ⟨rfl, rfl⟩ := one lexed same stoodFirst stoodFirst'
        obtain ⟨rfl, rfl⟩ := ih lexed.right (List.append_cancel_left same) later later'
        exact ⟨rfl, rfl⟩

end Phrase

/-! ## What errors foretell -/

/-- What an error says about the tokens it was met on: the budget was not spent, tokens that came to
an end can be completed, and no others can. -/
structure Foretold {α : Type} (phrase : Phrase α) (buffer : Buffer) (error : ParseError) :
    Prop where
  /-- The error is no spent budget. -/
  unspent : error ≠ .tooDeep
  /-- More tokens can complete what came to an end. -/
  completable : error.isOutOfTokens = true → phrase.Completable buffer
  /-- No tokens can mend anything else. -/
  hopeless : error.isOutOfTokens = false → phrase.Hopeless buffer

namespace Foretold

variable {α β : Type} {phrase : Phrase α} {follower : α → Phrase β} {front buffer : Buffer}
  {middle : α} {error : ParseError}

/-- Tokens that can be completed came to an end. -/
theorem ofEnd (out : error.isOutOfTokens = true) (completable : phrase.Completable buffer) :
    Foretold phrase buffer error where
  unspent := by
    rintro rfl
    cases out
  completable _ := completable
  hopeless final := by
    rw [out] at final
    cases final

/-- Tokens without hope are met by another error. -/
theorem ofStray (final : error.isOutOfTokens = false) (unspent : error ≠ .tooDeep)
    (hopeless : phrase.Hopeless buffer) : Foretold phrase buffer error where
  unspent := unspent
  completable out := by
    rw [final] at out
    cases out
  hopeless _ := hopeless

/-- What is foretold of a phrase is foretold of it and a possible one behind it. -/
theorem ofFirst (foretold : Foretold phrase buffer error)
    (possible : ∀ middle, (follower middle).Completable []) :
    Foretold (phrase.followedBy follower) buffer error where
  unspent := foretold.unspent
  completable out := by
    obtain ⟨more, middle, lexedMore, stood⟩ := foretold.completable out
    obtain ⟨others, result, lexedOthers, stoodNext⟩ := possible middle
    refine ⟨more ++ others, result, lexedMore.append lexedOthers, ?_⟩
    exact ⟨buffer ++ more, others, middle, (List.append_assoc ..).symm, stood, stoodNext⟩
  hopeless final := by
    rintro more words rest result lexedMore same ⟨front, back, middle, rfl, stood, -⟩
    rw [List.append_assoc] at same
    exact foretold.hopeless final lexedMore same stood

/-- What is foretold behind a phrase that stands in one way is foretold of both. -/
theorem ofSecond (foretold : Foretold (follower middle) buffer error)
    (lexed : Buffer.Lexed (front ++ buffer)) (unambiguous : phrase.Unambiguous)
    (stood : phrase front middle) :
    Foretold (phrase.followedBy follower) (front ++ buffer) error where
  unspent := foretold.unspent
  completable out := by
    obtain ⟨more, result, lexedMore, stoodNext⟩ := foretold.completable out
    refine ⟨more, result, lexedMore, front, buffer ++ more, middle, ?_, stood, stoodNext⟩
    rw [List.append_assoc]
  hopeless final := by
    -- Another way to read the first phrase would be the same way, so the second has no hope.
    rintro more words others result lexedMore same ⟨front', back, middle', rfl, stood', stoodNext⟩
    have all := lexed.append lexedMore
    rw [List.append_assoc] at all
    rw [List.append_assoc, List.append_assoc] at same
    obtain ⟨rfl, rfl⟩ := unambiguous all same stood stood'
    exact foretold.hopeless final lexedMore (List.append_cancel_left same) stoodNext

end Foretold

namespace Parser

variable {α β : Type} {phrase : Phrase α} {follower : α → Phrase β} {action : Parser α}
  {next : α → Parser β} {buffer : Buffer} {limit : Nat}

/-- Whether a parser takes the phrase off the front of a buffer or stops with a parse error that
foretells whether it can still come. -/
def Foretells (phrase : Phrase α) (action : Parser α) (buffer : Buffer) : Prop :=
  Ends (fun result rest => ∃ words, buffer = words ++ rest ∧ phrase words result)
    (fun stop _ => ∃ error, stop = .refused error ∧ Foretold phrase buffer error) (action buffer)

/-- Phrases one after another are foretold if the first one is, and the second one is behind it. -/
theorem Foretells.bind (lexed : Buffer.Lexed buffer) (unambiguous : phrase.Unambiguous)
    (possible : ∀ middle, (follower middle).Completable [])
    (first : Foretells phrase action buffer)
    (second : ∀ {front rest middle}, buffer = front ++ rest → phrase front middle →
      Foretells (follower middle) (next middle) rest) :
    Foretells (phrase.followedBy follower) (action >>= next) buffer := by
  refine Ends.bind (Ends.mono first (fun _ _ stood => stood) ?_) ?_
  · rintro stop rest ⟨error, rfl, foretold⟩
    exact ⟨error, rfl, foretold.ofFirst possible⟩
  · rintro middle rest ⟨front, rfl, stood⟩
    refine Ends.mono (second rfl stood) ?_ ?_
    · rintro result left ⟨back, rfl, stoodNext⟩
      exact ⟨front ++ back, (List.append_assoc ..).symm, front, back, middle, rfl, stood, stoodNext⟩
    · rintro stop left ⟨error, rfl, foretold⟩
      exact ⟨error, rfl, foretold.ofSecond lexed unambiguous stood⟩

/-- What is foretold of one phrase is foretold of another one that is the same on a buffer and
whatever is added to it. -/
theorem Foretells.congr {other : Phrase α} (foretells : Foretells phrase action buffer)
    (forward : ∀ {words result}, phrase words result → other words result)
    (backward : ∀ {more words rest result}, buffer ++ more = words ++ rest → other words result →
      phrase words result) : Foretells other action buffer := by
  refine Ends.mono foretells ?_ ?_
  · rintro result rest ⟨words, split, stood⟩
    exact ⟨words, split, forward stood⟩
  · rintro stop rest ⟨error, rfl, foretold⟩
    refine ⟨error, rfl, foretold.unspent, fun out => ?_, fun final => ?_⟩
    · obtain ⟨more, result, lexed, stood⟩ := foretold.completable out
      exact ⟨more, result, lexed, forward stood⟩
    · intro more words rest result lexed same stood
      exact foretold.hopeless final lexed same (backward same stood)

/-- Whether a parser foretells a phrase on all buffers of fewer than `limit` tokens as they come from
texts; the phrase itself is possible and unambiguous. -/
structure Foresees (limit : Nat) (phrase : Phrase α) (action : Parser α) : Prop where
  /-- Some tokens make the phrase. -/
  possible : phrase.Completable []
  /-- The phrase stands in one way at most. -/
  unambiguous : phrase.Unambiguous
  /-- The parser foretells the phrase. -/
  foretells : ∀ {buffer}, Buffer.Lexed buffer → buffer.length < limit →
    Foretells phrase action buffer

namespace Foresees

/-- A known result is always given. -/
theorem pure (result : α) :
    Foresees limit (Phrase.known result) (Pure.pure result : Parser α) where
  possible := Phrase.completable_known result
  unambiguous := Phrase.unambiguous_known result
  foretells _ _ := ⟨[], rfl, rfl, rfl⟩

/-- Phrases one after another are foreseen if each of them is. -/
theorem bind (first : Foresees limit phrase action)
    (second : ∀ middle, Foresees limit (follower middle) (next middle)) :
    Foresees limit (phrase.followedBy follower) (action >>= next) where
  possible := by
    obtain ⟨front, middle, lexedFront, stood⟩ := first.possible
    obtain ⟨back, result, lexedBack, stoodNext⟩ := (second middle).possible
    exact ⟨front ++ back, result, lexedFront.append lexedBack, front, back, middle, rfl, stood,
      stoodNext⟩
  unambiguous := first.unambiguous.followedBy fun middle => (second middle).unambiguous
  foretells {buffer} lexed short := by
    refine Foretells.bind lexed first.unambiguous (fun middle => (second middle).possible)
      (first.foretells lexed short) fun {front rest middle} split _ => ?_
    subst split
    rw [List.length_append] at short
    exact (second middle).foretells lexed.right (by omega)

/-- A single token is foreseen by a parser that takes it, or stops at its lack or at another one. -/
theorem single {read : Token → Option α} {missing : ParseError}
    (possible : (Phrase.single read).Completable [])
    (ends : action [] = .error (.refused missing) []) (out : missing.isOutOfTokens = true)
    (accepts : ∀ {token rest result}, token.Lexed → read token = some result →
      action (token :: rest) = .ok result rest)
    (refuses : ∀ (token : Token) (rest : Buffer), token.Lexed → read token = none →
      ∃ error left, action (token :: rest) = .error (.refused error) left ∧ error ≠ .tooDeep ∧
        error.isOutOfTokens = false) :
    Foresees limit (Phrase.single read) action where
  possible := possible
  unambiguous := Phrase.unambiguous_single read
  foretells {buffer} lexed _ := by
    unfold Foretells
    cases buffer with
    | nil =>
      rw [ends]
      exact ⟨missing, rfl, .ofEnd out possible⟩
    | cons token rest =>
      cases found : read token with
      | some result =>
        rw [accepts (lexed token List.mem_cons_self) found]
        exact ⟨[token], rfl, token, rfl, found⟩
      | none =>
        obtain ⟨error, left, refused, unspent, final⟩ :=
          refuses token rest (lexed token List.mem_cons_self) found
        rw [refused]
        refine ⟨error, rfl, .ofStray final unspent ?_⟩
        rintro more words others result - same ⟨other, rfl, foundOther⟩
        cases same
        rw [found] at foundOther
        cases foundOther

/-- Items up to a closing token are foreseen, with enough rounds, if each item is and none starts
with a closing token. -/
theorem rounds {close : Kind} {unclosed : ParseError} (item : Foresees limit phrase action)
    (avoids : phrase.Avoids close) (closable : ∃ token : Token, token.Lexed ∧ token.kind = close)
    (out : unclosed.isOutOfTokens = true) {count : Nat} (lexed : Buffer.Lexed buffer)
    (enough : buffer.length < count) (short : buffer.length < limit) :
    Foretells (phrase.upTo close) (itemsUntil.rounds action close unclosed count) buffer := by
  obtain ⟨closing, lexedClosing, closes⟩ := closable
  have closed := Buffer.lexed_singleton lexedClosing
  -- Each item takes a token, so the rounds that are left stay more than the tokens that are left.
  induction count generalizing buffer with
  | zero => omega
  | succ count ih =>
    unfold Foretells
    cases buffer with
    | nil =>
      exact ⟨unclosed, rfl, .ofEnd out ⟨[closing], [], closed, Phrase.upTo_stop closes⟩⟩
    | cons token rest =>
      rw [rounds_cons]
      split
      · rename_i isClose
        exact ⟨[token], rfl, Phrase.upTo_stop isClose⟩
      · rename_i notClose
        have possible : ∀ first, ((phrase.upTo close).followedBy fun others =>
            Phrase.known (first :: others)).Completable [] := fun first =>
          ⟨[closing], [first], closed, [closing], [], [], rfl, Phrase.upTo_stop closes, rfl, rfl⟩
        refine (Foretells.bind lexed item.unambiguous possible (item.foretells lexed short)
          fun {front left first} same stood => ?_).congr Phrase.upTo_of_followedBy
          fun {more words left items} same => Phrase.followedBy_of_upTo ?_
        · obtain ⟨head, tail, rfl, -⟩ := avoids stood
          have sizes := congrArg List.length same
          simp only [List.length_cons, List.length_append, List.cons_append] at sizes enough short
          rw [same] at lexed
          exact Foretells.bind lexed.right (item.unambiguous.upTo avoids)
            (fun items => Phrase.completable_known _)
            (ih lexed.right (by omega) (by omega)) fun _ _ => ⟨[], rfl, rfl, rfl⟩
        · rintro stop rfl isClose
          cases same
          exact notClose isClose

/-- Items up to a closing token are foreseen if each item is and none starts with a closing
token. -/
theorem itemsUntil {close : Kind} {unclosed : ParseError} (item : Foresees limit phrase action)
    (avoids : phrase.Avoids close) (closable : ∃ token : Token, token.Lexed ∧ token.kind = close)
    (out : unclosed.isOutOfTokens = true) :
    Foresees limit (phrase.upTo close) (Parser.itemsUntil action close unclosed) where
  possible := by
    obtain ⟨closing, lexed, closes⟩ := closable
    exact ⟨[closing], [], Buffer.lexed_singleton lexed, Phrase.upTo_stop closes⟩
  unambiguous := item.unambiguous.upTo avoids
  foretells {buffer} lexed short := by
    unfold Foretells
    rw [itemsUntil_apply]
    exact item.rounds avoids closable out lexed (Nat.lt_succ_self _) short

end Foresees

end Parser

end PrefixCalc
