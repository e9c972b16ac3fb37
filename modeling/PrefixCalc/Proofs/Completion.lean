import PrefixCalc.Proofs.Forms
import PrefixCalc.Proofs.Nesting

/-!
# Errors tell whether more tokens can help

The parser foresees every form of expression (`foresees_expr`), so its errors have the
correct-prefix property (`errors_foretell`): it runs out of tokens exactly on the
beginnings of longer sentences, and any other error is met only where no more tokens
can make a sentence.
-/

namespace PrefixCalc

/-- The grammar is unambiguous. -/
theorem Derives.unambiguous : Phrase.Unambiguous Derives := by
  intro words rest others otherRest code other lexed same derives derivesOther
  rcases List.append_eq_append_iff.mp same with ⟨more, rfl, rfl⟩ | ⟨more, rfl, rfl⟩
  · rw [← List.append_assoc] at lexed
    obtain ⟨rfl, rfl⟩ := derives.eq_of_append lexed.left derivesOther
    exact ⟨(List.append_nil words).symm, rfl⟩
  · obtain ⟨rfl, rfl⟩ := derivesOther.eq_of_append lexed.left derives
    exact ⟨List.append_nil others, rfl⟩

namespace Parser

variable {limit : Nat}

/-! ## Every form is foreseen -/

/-- Some word is an expression. -/
theorem completable_expr : Phrase.Completable Derives [] :=
  ⟨[⟨.literal, "true", 1⟩], _, by decide +kernel, .literal rfl .truth⟩

/-- Some word is a name. -/
theorem completable_name : Phrase.name.Completable [] :=
  ⟨[⟨.identifier, "x", 1⟩], "x", by decide +kernel, _, rfl, rfl⟩

/-- Taking an identifier foresees a name. -/
theorem foresees_identifier {missing : ParseError} {invalid : String → ParseError}
    (out : missing.isOutOfTokens = true) (unspent : ∀ word, invalid word ≠ .tooDeep)
    (final : ∀ word, (invalid word).isOutOfTokens = false) :
    Foresees limit Phrase.name (identifier missing invalid) := by
  refine .single completable_name rfl out ?_ ?_
  · intro token rest result _ found
    obtain ⟨named, ⟨⟩⟩ := Option.ite_none_right_eq_some.mp found
    rw [identifier_cons, if_pos named]
  · intro token rest _ lacks
    have other : token.kind ≠ .identifier := by simpa using lacks
    refine ⟨invalid token.lexeme, rest, ?_, unspent _, final _⟩
    rw [identifier_cons, if_neg other]

/-- Taking a new name foresees a name. -/
theorem foresees_newName {role : NameRole} {missing : ParseError}
    (out : missing.isOutOfTokens = true) :
    Foresees limit Phrase.name (newName role missing) := by
  refine .single completable_name rfl out ?_ ?_
  · intro token rest result lexed found
    obtain ⟨named, ⟨⟩⟩ := Option.ite_none_right_eq_some.mp found
    rw [newName_cons, lexed.free named, if_neg Bool.false_ne_true, if_pos named]
  · intro token rest _ lacks
    have other : token.kind ≠ .identifier := by simpa using lacks
    rw [newName_cons, if_neg other]
    split
    · exact ⟨_, rest, rfl, nofun, rfl⟩
    · exact ⟨_, rest, rfl, nofun, rfl⟩

/-- Taking a mark foresees it. -/
theorem foresees_closePart (which : Mark) :
    Foresees limit (Phrase.mark which) (closePart which) := by
  refine .single ?_ rfl rfl ?_ ?_
  · cases which with
    | thenMark => exact ⟨[⟨.thenMark, "?", 1⟩], (), by decide +kernel, _, rfl, rfl⟩
    | elseMark => exact ⟨[⟨.elseMark, ":", 1⟩], (), by decide +kernel, _, rfl, rfl⟩
    | fiMark => exact ⟨[⟨.fiMark, "fi", 1⟩], (), by decide +kernel, _, rfl, rfl⟩
  · intro token rest result _ found
    obtain ⟨marked, -⟩ := Option.ite_none_right_eq_some.mp found
    rw [closePart_cons, if_pos marked]
  · intro token rest _ lacks
    have other : token.kind ≠ markKind which := by simpa using lacks
    refine ⟨.expectedMark which, token :: rest, ?_, nofun, rfl⟩
    rw [closePart_cons, if_neg other]

/-- Taking the mark that closes the first branch foresees it. -/
theorem foresees_closeBranch : Foresees limit Phrase.branchMark closeBranch := by
  refine .single ⟨[⟨.fiMark, "fi", 1⟩], true, by decide +kernel, _, rfl, rfl⟩ rfl rfl ?_ ?_
  · intro token rest result _ found
    rw [closeBranch_cons]
    by_cases isElse : token.kind = .elseMark
    · rw [if_pos isElse] at found ⊢
      rw [Option.some.inj found]
    · rw [if_neg isElse] at found ⊢
      obtain ⟨isFi, ⟨⟩⟩ := Option.ite_none_right_eq_some.mp found
      rw [if_pos isFi]
  · intro token rest _ lacks
    have others : token.kind ≠ .elseMark ∧ token.kind ≠ .fiMark := by
      by_cases isElse : token.kind = .elseMark <;> simp_all
    refine ⟨.expectedMark .elseMark, token :: rest, ?_, nofun, rfl⟩
    rw [closeBranch_cons, if_neg others.1, if_neg others.2]

section

variable {inner : Parser Expr}

/-- A function definition is foreseen if the expressions of its body are. -/
theorem foresees_function (inside : Foresees limit Derives inner) :
    Foresees limit Phrase.function (function inner) := by
  have named : Phrase.name.Avoids .beginMark := by
    rintro words result ⟨token, rfl, found⟩
    obtain ⟨named, -⟩ := Option.ite_none_right_eq_some.mp found
    exact ⟨token, [], rfl, by simp [named]⟩
  refine .bind (foresees_newName rfl) fun title => ?_
  refine .bind ((foresees_newName rfl).itemsUntil named ?_ rfl) fun parameters => ?_
  · exact ⟨⟨.beginMark, "begin", 1⟩, by decide +kernel, rfl⟩
  refine .bind (inside.itemsUntil (fun _ _ derives => derives.exists_head_ne rfl) ?_ rfl)
    fun body => .pure _
  exact ⟨⟨.endMark, "end", 1⟩, by decide +kernel, rfl⟩

/-- A call is foreseen if its arguments are. -/
theorem foresees_call (inside : Foresees limit Derives inner) :
    Foresees limit Phrase.call (call inner) := by
  refine .bind (foresees_identifier rfl (by simp) fun _ => rfl) fun title => ?_
  refine .bind (inside.itemsUntil (fun _ _ derives => derives.exists_head_ne rfl) ?_ rfl)
    fun arguments => .pure _
  exact ⟨⟨.callEndMark, "cend", 1⟩, by decide +kernel, rfl⟩

/-- A condition is foreseen if its parts are. -/
theorem foresees_condition (inside : Foresees limit Derives inner) :
    Foresees limit Phrase.condition (condition inner) := by
  refine .bind inside fun test => .bind (foresees_closePart .thenMark) fun _ => ?_
  refine .bind inside fun whenTrue => .bind foresees_closeBranch fun closed => ?_
  cases closed with
  | true => exact .pure _
  | false =>
    exact .bind inside fun whenFalse => .bind (foresees_closePart .fiMark) fun _ => .pure _

/-- No expression starts with a token that opens none. -/
theorem foretells_stray {token : Token} {error : ParseError} {rest : Buffer}
    (opensNone : token.kind.opensExpr = false) (unspent : error ≠ .tooDeep)
    (final : error.isOutOfTokens = false) :
    Foretells (Phrase.behind token) (refuse error) rest := by
  refine ⟨error, rfl, .ofStray final unspent ?_⟩
  intro more words others code _ _ derives
  obtain ⟨head, tail, ⟨⟩, opens⟩ := derives.exists_head
  rw [opensNone] at opens
  cases opens

/-- What a token opens is foretold if the expressions inside are foreseen. -/
theorem foretells_form (inside : Foresees limit Derives inner) {token : Token} {rest : Buffer}
    (lexed : Buffer.Lexed (token :: rest)) (short : rest.length < limit) :
    Foretells (Phrase.behind token) (form inner token) rest := by
  have fits := (lexed token List.mem_cons_self).fits
  -- Where an expression can start, what follows is foreseen as the phrase of its form.
  have foreseen : ∀ {phrase : Phrase Expr} {action : Parser Expr}, Foresees limit phrase action →
      (∀ {words code}, Phrase.behind token words code ↔ phrase words code) →
      Foretells (Phrase.behind token) action rest := fun foresees same =>
    (foresees.foretells lexed.tail short).congr same.mpr fun _ => same.mp
  unfold form
  cases opens : token.kind with
  | literal =>
    rw [opens] at fits
    obtain ⟨value, found⟩ := Option.isSome_iff_exists.mp fits
    simp only [literal, found]
    exact foreseen (.pure _) (Phrase.behind_literal_iff opens found)
  | constant =>
    rw [opens] at fits
    obtain ⟨value, found⟩ := Option.isSome_iff_exists.mp fits
    simp only [constant, found]
    exact foreseen (.pure _) (Phrase.behind_constant_iff opens found)
  | identifier => exact foreseen (.pure _) (Phrase.behind_get_iff opens)
  | define =>
    refine foreseen (.bind (foresees_identifier rfl (by simp) fun _ => rfl) fun title => ?_)
      (Phrase.behind_define_iff opens)
    exact .bind inside fun value => .pure _
  | assign =>
    refine foreseen (.bind (foresees_identifier rfl (by simp) fun _ => rfl) fun title => ?_)
      (Phrase.behind_assign_iff opens)
    exact .bind inside fun value => .pure _
  | binaryOp =>
    rw [opens] at fits
    obtain ⟨operator, found⟩ := Option.isSome_iff_exists.mp fits
    simp only [found]
    exact foreseen (.bind inside fun left => .bind inside fun right => .pure _)
      (Phrase.behind_binary_iff opens found)
  | unaryOp =>
    rw [opens] at fits
    obtain ⟨operator, found⟩ := Option.isSome_iff_exists.mp fits
    simp only [found]
    exact foreseen (.bind inside fun operand => .pure _) (Phrase.behind_unary_iff opens found)
  | special =>
    simp only [(lexed token List.mem_cons_self).print opens, if_true]
    exact foreseen (.bind inside fun value => .pure _) (Phrase.behind_print_iff opens)
  | function => exact foreseen (foresees_function inside) (Phrase.behind_function_iff opens)
  | call => exact foreseen (foresees_call inside) (Phrase.behind_call_iff opens)
  | ifMark => exact foreseen (foresees_condition inside) (Phrase.behind_condition_iff opens)
  | foreign name =>
    rw [opens] at fits
    exact fits.elim
  | _ => exact foretells_stray (by simp [opens, Kind.opensExpr]) (by simp) rfl

end

/-- Expressions are foreseen with a budget of more than the tokens. -/
theorem foresees_expr (budget : Nat) : Foresees budget Derives (expr budget) := by
  induction budget with
  | zero => exact ⟨completable_expr, Derives.unambiguous, fun _ short => by omega⟩
  | succ budget ih =>
    refine ⟨completable_expr, Derives.unambiguous, fun {buffer} lexed short => ?_⟩
    unfold Foretells
    cases buffer with
    | nil => exact ⟨.expectingToken, rfl, .ofEnd rfl completable_expr⟩
    | cons token rest =>
      rw [List.length_cons] at short
      rw [expr_cons]
      -- What is foretold of the rest behind the first token is foretold of the whole.
      refine Ends.mono (foretells_form ih lexed (by omega)) ?_ ?_
      · rintro code left ⟨words, rfl, derives⟩
        exact ⟨token :: words, rfl, derives⟩
      · rintro stop left ⟨error, rfl, foretold⟩
        refine ⟨error, rfl, foretold.unspent, fun out => ?_, fun final => ?_⟩
        · exact foretold.completable out
        · intro more words others code lexedMore same derives
          obtain ⟨head, tail, rfl, -⟩ := derives.exists_head
          rw [List.cons_append, List.cons_append] at same
          obtain ⟨rfl, behind⟩ := List.cons.inj same
          exact foretold.hopeless final lexedMore behind derives

end Parser

/-! ## Sentences and their beginnings -/

namespace Buffer

/-- Whether a sentence stands in front of some tokens. -/
def HasSentence (buffer : Buffer) : Prop :=
  ∃ words rest code, buffer = words ++ rest ∧ Derives words code

/-- Whether some tokens are the beginning of a longer sentence. -/
def BeginsSentence (buffer : Buffer) : Prop :=
  ∃ more code, more ≠ [] ∧ Lexed more ∧ Derives (buffer ++ more) code

/-- The beginning of a longer sentence has no sentence in front. -/
theorem BeginsSentence.not_hasSentence {buffer : Buffer} (lexed : Lexed buffer)
    (begins : BeginsSentence buffer) : ¬ HasSentence buffer := by
  rintro ⟨words, rest, code, rfl, derives⟩
  obtain ⟨more, other, added, lexedMore, derivesMore⟩ := begins
  have all := lexed.append lexedMore
  rw [List.append_assoc] at all derivesMore
  have ended := (derives.eq_of_append all derivesMore).1
  exact added (List.append_eq_nil_iff.mp ended).2

end Buffer

namespace Parser

/-- Whether the parser reads an expression off the front of a buffer. -/
def Succeeds (budget : Nat) (buffer : Buffer) : Prop :=
  ∃ code rest, expr budget buffer = .ok code rest

/-- Whether the parser stops on a buffer with a parse error, for lack of tokens or not. -/
def Fails (budget : Nat) (buffer : Buffer) (outOfTokens : Bool) : Prop :=
  ∃ error rest, expr budget buffer = .error (.refused error) rest ∧
    error.isOutOfTokens = outOfTokens

/-- A budget of more than the tokens is not spent. -/
theorem settled_of_length_lt {budget : Nat} {buffer : Buffer} (lexed : Buffer.Lexed buffer)
    (enough : buffer.length < budget) : Settled tooDeep (expr budget buffer) := by
  refine Ends.mono ((foresees_expr budget).foretells lexed enough) (fun _ _ _ => trivial) ?_
  rintro stop rest ⟨error, rfl, foretold⟩ same
  exact foretold.unspent (Stop.refused.inj same)

/-- A budget that is not spent answers as one of more than the tokens. -/
theorem expr_eq_of_settled {budget : Nat} {buffer : Buffer}
    (settled : Settled tooDeep (expr budget buffer)) :
    ∃ larger, buffer.length < larger ∧ expr budget buffer = expr larger buffer := by
  refine ⟨max budget (buffer.length + 1), by omega, ?_⟩
  exact (grows_expr (Nat.le_max_left ..) buffer settled).symm

/-- Where the parser stops with an error and enough budget no sentence stands in front. -/
theorem not_hasSentence_of_eq_error {budget : Nat} {buffer rest : Buffer} {stop : Stop}
    (lexed : Buffer.Lexed buffer) (enough : buffer.length ≤ budget)
    (failed : expr budget buffer = .error stop rest) : ¬ buffer.HasSentence := by
  rintro ⟨words, others, code, split, derives⟩
  have read := (expr_eq_ok_iff lexed enough).mpr ⟨words, split, derives⟩
  rw [failed] at read
  cases read

/-- The parser's errors have the correct-prefix property: wherever the budget is not spent, a
sentence stands in front, or the tokens begin a longer one and the parser runs out of them, or it
stops with another error. -/
theorem errors_foretell {buffer : Buffer} (lexed : Buffer.Lexed buffer) :
    (∀ budget, buffer.length < budget → Settled tooDeep (expr budget buffer)) ∧
    ∀ budget, Settled tooDeep (expr budget buffer) →
      ((buffer.HasSentence ∧ ¬ buffer.BeginsSentence) ∧ Succeeds budget buffer) ∨
      ((¬ buffer.HasSentence ∧ buffer.BeginsSentence) ∧ Fails budget buffer true) ∨
      ((¬ buffer.HasSentence ∧ ¬ buffer.BeginsSentence) ∧ Fails budget buffer false) := by
  refine ⟨fun budget => settled_of_length_lt lexed, fun budget settled => ?_⟩
  obtain ⟨larger, enough, same⟩ := expr_eq_of_settled settled
  have foretells := (foresees_expr larger).foretells lexed enough
  unfold Foretells at foretells
  rw [← same] at foretells
  cases outcome : expr budget buffer with
  | ok code rest =>
    rw [outcome] at foretells
    obtain ⟨words, split, derives⟩ := foretells
    have sentence : buffer.HasSentence := ⟨words, rest, code, split, derives⟩
    exact .inl ⟨⟨sentence, fun begins => begins.not_hasSentence lexed sentence⟩, code, rest, outcome⟩
  | error stop rest =>
    have none := not_hasSentence_of_eq_error lexed (Nat.le_of_lt enough) (same.symm.trans outcome)
    rw [outcome] at foretells
    obtain ⟨error, rfl, foretold⟩ := foretells
    cases out : error.isOutOfTokens with
    | true =>
      obtain ⟨more, code, lexedMore, derives⟩ := foretold.completable out
      have added : more ≠ [] := by
        rintro rfl
        exact none ⟨buffer ++ [], [], code, by simp, derives⟩
      exact .inr (.inl ⟨⟨none, more, code, added, lexedMore, derives⟩, error, rest, outcome, out⟩)
    | false =>
      have never : ¬ buffer.BeginsSentence := by
        rintro ⟨more, code, -, lexedMore, derives⟩
        exact foretold.hopeless out lexedMore (List.append_nil _).symm derives
      exact .inr (.inr ⟨⟨none, never⟩, error, rest, outcome, out⟩)

/-- A condition that stops behind its test can be completed, and one that goes on with a stray word
cannot. -/
theorem errors_foretell_condition :
    let opened : Buffer := [⟨.ifMark, "if", 1⟩, ⟨.identifier, "x", 4⟩]
    let broken : Buffer := opened ++ [⟨.identifier, "y", 6⟩]
    (opened.Lexed ∧ Settled tooDeep (expr 3 opened) ∧ opened.BeginsSentence ∧
      Fails 3 opened true) ∧
    (broken.Lexed ∧ Settled tooDeep (expr 4 broken) ∧ ¬ broken.BeginsSentence ∧
      Fails 4 broken false) := by
  intro opened broken
  have lexedOpened : opened.Lexed := by decide +kernel
  have lexedBroken : broken.Lexed := by decide +kernel
  obtain ⟨settled, judged⟩ := errors_foretell lexedOpened
  obtain ⟨settledBroken, judgedBroken⟩ := errors_foretell lexedBroken
  have openedStops : expr 3 opened = .error (.refused (.missingMark .thenMark)) [] := rfl
  have brokenStops : expr 4 broken =
      .error (.refused (.expectedMark .thenMark)) [⟨.identifier, "y", 6⟩] := rfl
  refine ⟨⟨lexedOpened, settled 3 (by decide), ?_⟩, lexedBroken, settledBroken 4 (by decide), ?_⟩
  · rcases judged 3 (settled 3 (by decide)) with
      ⟨_, code, rest, read⟩ | ⟨⟨_, begins⟩, fails⟩ | ⟨_, error, rest, failed, final⟩
    · cases openedStops.symm.trans read
    · exact ⟨begins, fails⟩
    · cases openedStops.symm.trans failed
      cases final
  · rcases judgedBroken 4 (settledBroken 4 (by decide)) with
      ⟨_, code, rest, read⟩ | ⟨_, error, rest, failed, out⟩ | ⟨⟨_, never⟩, fails⟩
    · cases brokenStops.symm.trans read
    · cases brokenStops.symm.trans failed
      cases out
    · exact ⟨never, fails⟩

end Parser

end PrefixCalc
