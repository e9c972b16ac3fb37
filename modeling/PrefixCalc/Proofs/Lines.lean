import PrefixCalc.Proofs.Completion

/-!
# Definitions over several texts

A function definition may come in several texts. Texts joined by line feeds have the
tokens of all of them (`Token.scan_intercalate`), so reading the pieces one after
another can be compared with reading them at once. Pieces are held back as long as
none of them ends in `end`; the first that does so before the definition is complete
is refused, since no sentence goes on behind another one (`definition_over_texts`).
-/

namespace PrefixCalc

/-! ## Joined texts -/

namespace Text

/-- A letter is put before the segments up to a blank as before all of them. -/
theorem consLetter_append_blank (letter blank : Char) (parts rest : List Segment) :
    consLetter letter (parts ++ .blank blank :: rest) =
      consLetter letter parts ++ .blank blank :: rest := by
  cases parts with
  | nil => rfl
  | cons part parts => cases part <;> rfl

/-- A blank divides the segments of a text. -/
theorem segments_append_blank {blank : Char} (isBlank : isBlank blank = true)
    (text rest : List Char) :
    segments (text ++ blank :: rest) = segments text ++ .blank blank :: segments rest := by
  induction text with
  | nil =>
    change segments (blank :: rest) = .blank blank :: segments rest
    rw [segments, if_pos isBlank]
  | cons character text ih =>
    rw [List.cons_append, segments, segments, ih]
    split
    · rfl
    · exact consLetter_append_blank ..

end Text

namespace Token

/-- Segments behind a line feed are turned into tokens as at the start of a text. -/
theorem ofSegments_append_line {column : Nat} {parts rest : List Text.Segment}
    {tokens others : List Token} (first : ofSegments column parts = .ok tokens)
    (second : ofSegments 1 rest = .ok others) :
    ofSegments column (parts ++ .blank '\n' :: rest) = .ok (tokens ++ others) := by
  fun_induction ofSegments column parts generalizing tokens with
  | case1 column =>
    cases first
    exact second
  | case2 column character parts layout ih =>
    rw [List.cons_append, ofSegments, if_pos layout]
    exact ih first
  | case3 column character parts refused => cases first
  | case4 column letters parts word => cases first
  | case5 column letters parts word kind known =>
    rename_i ih
    cases later : ofSegments (column + letters.length) parts with
    | error error =>
      rw [later] at first
      cases first
    | ok rest =>
      rw [later] at first
      cases first
      have known : Kind.ofWord? (String.ofList letters) = some kind := known
      simp only [List.cons_append, ofSegments, known, ih later]
      rfl

/-- Two texts with a line feed between them have the tokens of both. -/
theorem scan_line {text other : String} {tokens others : List Token}
    (first : scan text = .ok tokens) (second : scan other = .ok others) :
    scan (text ++ "\n" ++ other) = .ok (tokens ++ others) := by
  have joined : (text ++ "\n" ++ other).toList = text.toList ++ '\n' :: other.toList := by simp
  rw [scan, joined, Text.segments_append_blank rfl]
  exact ofSegments_append_line first second

/-- Texts joined by line feeds have the tokens of all of them. -/
theorem scan_intercalate {pieces : List (String × List Token)}
    (scanned : ∀ piece ∈ pieces, scan piece.1 = .ok piece.2) :
    scan ("\n".intercalate (pieces.map Prod.fst)) = .ok (pieces.flatMap Prod.snd) := by
  induction pieces with
  | nil => rfl
  | cons piece pieces ih =>
    have first := scanned piece List.mem_cons_self
    have later := ih fun other inside => scanned other (List.mem_cons_of_mem piece inside)
    cases pieces with
    | nil => simpa using first
    | cons next pieces =>
      rw [List.map_cons, List.map_cons, String.intercalate_cons_cons, List.flatMap_cons]
      exact scan_line first later

end Token

/-! ## Beginnings of definitions -/

/-- What is read up to the last token is a sentence. -/
theorem Derives.of_expr_eq_ok {budget : Nat} {words : List Token} {code : Expr}
    (read : Parser.expr budget words = .ok code []) : Derives words code := by
  obtain ⟨front, split, derives⟩ := Parser.derives_of_expr_eq_ok budget read
  rwa [split, List.append_nil]

/-- A function definition starts with the token that opens it. -/
theorem Derives.startsWith_function {words : List Token} {name : String} {parameters : List String}
    {body : List Expr} (derives : Derives words (.function name parameters body)) :
    Buffer.startsWith words .function = true := by
  cases derives with
  | function opens => simp [Buffer.startsWith, opens]

namespace Buffer

/-- The first of some tokens is the first of all tokens that start with them. -/
theorem startsWith_append {front back : Buffer} (some : front ≠ []) (kind : Kind) :
    startsWith (front ++ back) kind = startsWith front kind := by
  obtain ⟨token, rest, rfl⟩ := List.exists_cons_of_ne_nil some
  rfl

/-- The last of some tokens is the last of all tokens that end in them. -/
theorem endsWith_append {front back : Buffer} (some : back ≠ []) (kind : Kind) :
    endsWith (front ++ back) kind = endsWith back kind := by
  unfold endsWith
  rw [List.getLast?_append, List.getLast?_eq_some_getLast some]
  rfl

/-- The beginning of a function definition awaits its end unless it ends in `end`. -/
theorem awaitsEnd_of_derives {buffer more : Buffer} {name : String} {parameters : List String}
    {body : List Expr} (some : buffer ≠ [])
    (derives : Derives (buffer ++ more) (.function name parameters body)) :
    awaitsEnd buffer = !endsWith buffer .endMark := by
  have starts := derives.startsWith_function
  rw [startsWith_append some] at starts
  rw [awaitsEnd, starts, Bool.true_and]

/-- Tokens that go on with a function definition await its end unless they end in `end`. -/
theorem awaitsEnd_append {pending tokens more : Buffer} {name : String} {parameters : List String}
    {body : List Expr} (some : tokens ≠ [])
    (derives : Derives (pending ++ (tokens ++ more)) (.function name parameters body)) :
    awaitsEnd (pending ++ tokens) = !endsWith tokens .endMark := by
  rw [← List.append_assoc] at derives
  rw [awaitsEnd_of_derives (by simp [some]) derives, endsWith_append some]

end Buffer

namespace Reading

/-- Whether a text was held back, so that these tokens wait. -/
def Holds (reading : Reading) (buffer : Buffer) : Prop :=
  reading.outcome = .ok none ∧ reading.pending = buffer

/-- Whether a text completed an expression, so that no tokens wait. -/
def Completes (reading : Reading) (code : Expr) : Prop :=
  reading.outcome = .ok (some code) ∧ reading.pending = []

/-- Whether a text was refused, so that no tokens wait. -/
def Refuses (reading : Reading) : Prop :=
  (∃ error, reading.outcome = .error (.refused error)) ∧ reading.pending = []

section

variable {budget : Nat} {pending : Buffer} {text : String} {tokens : List Token}

/-- A text is held back with the tokens before it if they await the end of a definition. -/
theorem holds_of_awaitsEnd (scanned : Token.scan text = .ok tokens)
    (awaits : Buffer.awaitsEnd (pending ++ tokens) = true) :
    (ofText budget pending text).Holds (pending ++ tokens) := by
  simp [Holds, ofText_of_ok scanned, ofWaiting, awaits]

/-- A text is read with the tokens before it if they do not await the end of a definition. -/
theorem ofText_of_not_awaitsEnd (budget : Nat) (scanned : Token.scan text = .ok tokens)
    (ready : Buffer.awaitsEnd (pending ++ tokens) = false) :
    (ofText budget pending text).outcome = (ofBuffer budget (pending ++ tokens) text).1 ∧
      (ofText budget pending text).pending = (ofBuffer budget (pending ++ tokens) text).2 := by
  simp [ofText_of_ok scanned, ofWaiting, ready]

/-- A text that completes a sentence completes its expression. -/
theorem completes_of_derives {code : Expr} (scanned : Token.scan text = .ok tokens)
    (lexed : Buffer.Lexed (pending ++ tokens)) (derives : Derives (pending ++ tokens) code)
    (shallow : Settled Parser.tooDeep (Parser.expr budget (pending ++ tokens))) :
    (ofText budget pending text).Completes code := by
  obtain ⟨larger, enough, same⟩ := Parser.expr_eq_of_settled shallow
  have read : Parser.expr budget (pending ++ tokens) = .ok code [] := by
    rw [same, Parser.expr_eq_ok_iff lexed (Nat.le_of_lt enough)]
    exact ⟨_, (List.append_nil _).symm, derives⟩
  have whole : ofBuffer budget (pending ++ tokens) text = (.ok (some code), []) := by
    rw [ofBuffer, read]
  have reads := ofText_of_not_awaitsEnd budget scanned derives.awaitsEnd_eq_false
  rwa [whole] at reads

/-- Reading a whole buffer of tokens as they come from texts drops all of them: they are read as one
expression or refused. -/
theorem ofBuffer_cases (budget : Nat) {buffer : Buffer} (lexed : Buffer.Lexed buffer)
    (text : String) :
    (∃ code, Parser.expr budget buffer = .ok code [] ∧
      ofBuffer budget buffer text = (.ok (some code), [])) ∨
    ∃ error, ofBuffer budget buffer text = (.error (.refused error), []) := by
  have ends := Parser.orderly_expr budget buffer lexed
  unfold ofBuffer
  cases read : Parser.expr budget buffer with
  | ok code rest =>
    cases rest with
    | nil => exact .inl ⟨code, rfl, rfl⟩
    | cons token rest => exact .inr ⟨_, rfl⟩
  | error stop rest =>
    rw [read] at ends
    cases stop with
    | refused error => exact .inr ⟨error, rfl⟩
    | escaped escape => exact ends.2.elim

/-- A text that leaves the beginning of a longer sentence is refused unless it is held back. -/
theorem refuses_of_beginsSentence (scanned : Token.scan text = .ok tokens)
    (lexed : Buffer.Lexed (pending ++ tokens)) (begins : Buffer.BeginsSentence (pending ++ tokens))
    (ready : Buffer.awaitsEnd (pending ++ tokens) = false) :
    (ofText budget pending text).Refuses := by
  have reads := ofText_of_not_awaitsEnd budget scanned ready
  rcases ofBuffer_cases budget lexed text with ⟨code, read, -⟩ | ⟨error, refused⟩
  · obtain ⟨words, split, derives⟩ := Parser.derives_of_expr_eq_ok budget read
    exact absurd ⟨words, [], code, split, derives⟩ (begins.not_hasSentence lexed)
  · rw [refused] at reads
    exact ⟨⟨error, reads.1⟩, reads.2⟩

end

/-! ## Texts one after another -/

/-- The tokens that wait after some texts, read one after another from the start. -/
def pendingAfter (budget : Nat) (texts : List String) : Buffer :=
  texts.foldl (fun pending text => (ofText budget pending text).pending) []

/-- What comes of a text that is read after some others. -/
def after (budget : Nat) (texts : List String) (text : String) : Reading :=
  ofText budget (pendingAfter budget texts) text

/-- Whether each of some pieces, read one after another from the start, is held back with all tokens
so far. -/
def HoldsBack (budget : Nat) (pieces : List (String × List Token)) : Prop :=
  ∀ before piece later, pieces = before ++ piece :: later →
    (after budget (before.map Prod.fst) piece.1).Holds (before.flatMap Prod.snd ++ piece.2)

section

variable {budget : Nat} {pieces : List (String × List Token)} {more : List Token} {name : String}
  {parameters : List String} {body : List Expr}

/-- The tokens of pieces are as they come from texts. -/
theorem lexed_flatMap
    (scanned : ∀ piece ∈ pieces, Token.scan piece.1 = .ok piece.2 ∧ piece.2 ≠ []) :
    Buffer.Lexed (pieces.flatMap Prod.snd) := by
  intro token inside
  obtain ⟨piece, listed, within⟩ := List.mem_flatMap.mp inside
  exact Token.scan_lexed (scanned piece listed).1 token within

/-- The pieces of a definition wait, one after another, while none ends in `end`. -/
theorem foldl_pending {pending : Buffer}
    (scanned : ∀ piece ∈ pieces, Token.scan piece.1 = .ok piece.2 ∧ piece.2 ≠ [])
    (goesOn : ∀ piece ∈ pieces, Buffer.endsWith piece.2 .endMark = false)
    (derives : Derives (pending ++ (pieces.flatMap Prod.snd ++ more))
      (.function name parameters body)) :
    (pieces.map Prod.fst).foldl (fun pending text => (ofText budget pending text).pending) pending =
      pending ++ pieces.flatMap Prod.snd := by
  induction pieces generalizing pending with
  | nil => simp
  | cons piece pieces ih =>
    obtain ⟨scannedPiece, some⟩ := scanned piece List.mem_cons_self
    rw [List.flatMap_cons, List.append_assoc] at derives
    have awaits : Buffer.awaitsEnd (pending ++ piece.2) = true := by
      rw [Buffer.awaitsEnd_append some derives, goesOn piece List.mem_cons_self, Bool.not_false]
    rw [List.map_cons, List.foldl_cons, (holds_of_awaitsEnd scannedPiece awaits).2,
      List.flatMap_cons, ← List.append_assoc]
    rw [← List.append_assoc] at derives
    exact ih (fun other inside => scanned other (List.mem_cons_of_mem piece inside))
      (fun other inside => goesOn other (List.mem_cons_of_mem piece inside)) derives

/-- The tokens of a definition's pieces wait while none ends in `end`. -/
theorem pendingAfter_of_derives
    (scanned : ∀ piece ∈ pieces, Token.scan piece.1 = .ok piece.2 ∧ piece.2 ≠ [])
    (goesOn : ∀ piece ∈ pieces, Buffer.endsWith piece.2 .endMark = false)
    (derives : Derives (pieces.flatMap Prod.snd ++ more) (.function name parameters body)) :
    pendingAfter budget (pieces.map Prod.fst) = pieces.flatMap Prod.snd :=
  foldl_pending scanned goesOn derives

/-- The pieces of a definition are held back while none ends in `end`. -/
theorem holdsBack_of_derives
    (scanned : ∀ piece ∈ pieces, Token.scan piece.1 = .ok piece.2 ∧ piece.2 ≠ [])
    (goesOn : ∀ piece ∈ pieces, Buffer.endsWith piece.2 .endMark = false)
    (derives : Derives (pieces.flatMap Prod.snd ++ more) (.function name parameters body)) :
    HoldsBack budget pieces := by
  rintro before piece later rfl
  obtain ⟨scannedBefore, scannedLater⟩ := List.forall_mem_append.mp scanned
  obtain ⟨goesOnBefore, goesOnLater⟩ := List.forall_mem_append.mp goesOn
  obtain ⟨scannedPiece, some⟩ := scannedLater piece List.mem_cons_self
  rw [List.flatMap_append, List.flatMap_cons, List.append_assoc, List.append_assoc] at derives
  have awaits : Buffer.awaitsEnd (before.flatMap Prod.snd ++ piece.2) = true := by
    rw [Buffer.awaitsEnd_append some derives, goesOnLater piece List.mem_cons_self, Bool.not_false]
  unfold after
  rw [pendingAfter_of_derives scannedBefore goesOnBefore derives]
  exact holds_of_awaitsEnd scannedPiece awaits

end

/-- A function definition that is cut into pieces is read as if it came at once, unless a piece ends
in an `end` too early; then the first such piece is refused. -/
theorem definition_over_texts {budget : Nat} {earlier : List (String × List Token)}
    {last : String × List Token} {name : String} {parameters : List String} {body : List Expr}
    (scanned : ∀ piece ∈ earlier ++ [last], Token.scan piece.1 = .ok piece.2 ∧ piece.2 ≠ [])
    (complete : Derives ((earlier ++ [last]).flatMap Prod.snd) (.function name parameters body))
    (shallow : Settled Parser.tooDeep
      (Parser.expr budget ((earlier ++ [last]).flatMap Prod.snd))) :
    ((∀ piece ∈ earlier, Buffer.endsWith piece.2 .endMark = false) →
      HoldsBack budget earlier ∧
      (after budget (earlier.map Prod.fst) last.1).Completes (.function name parameters body) ∧
      (after budget [] ("\n".intercalate ((earlier ++ [last]).map Prod.fst))).Completes
        (.function name parameters body)) ∧
    ∀ before piece later, earlier = before ++ piece :: later →
      (∀ other ∈ before, Buffer.endsWith other.2 .endMark = false) →
      Buffer.endsWith piece.2 .endMark = true →
      HoldsBack budget before ∧ (after budget (before.map Prod.fst) piece.1).Refuses := by
  have lexed := lexed_flatMap scanned
  obtain ⟨scannedEarlier, scannedLast⟩ := List.forall_mem_append.mp scanned
  obtain ⟨lastScanned, lastSome⟩ := scannedLast last List.mem_cons_self
  have whole : (earlier ++ [last]).flatMap Prod.snd = earlier.flatMap Prod.snd ++ last.2 := by simp
  constructor
  · intro goesOn
    have joined := Token.scan_intercalate fun piece inside => (scanned piece inside).1
    have once : (after budget [] ("\n".intercalate ((earlier ++ [last]).map Prod.fst))).Completes
        (.function name parameters body) := completes_of_derives joined lexed complete shallow
    rw [whole] at lexed complete shallow
    refine ⟨holdsBack_of_derives scannedEarlier goesOn complete, ?_, once⟩
    unfold after
    rw [pendingAfter_of_derives scannedEarlier goesOn complete]
    exact completes_of_derives lastScanned lexed complete shallow
  · rintro before piece later rfl goesOn ends
    obtain ⟨scannedBefore, scannedLater⟩ := List.forall_mem_append.mp scannedEarlier
    obtain ⟨pieceScanned, pieceSome⟩ := scannedLater piece List.mem_cons_self
    have split : (before ++ piece :: later ++ [last]).flatMap Prod.snd =
        before.flatMap Prod.snd ++ (piece.2 ++ (later.flatMap Prod.snd ++ last.2)) := by simp
    rw [split] at lexed complete
    refine ⟨holdsBack_of_derives scannedBefore goesOn complete, ?_⟩
    unfold after
    rw [pendingAfter_of_derives scannedBefore goesOn complete]
    have ready : Buffer.awaitsEnd (before.flatMap Prod.snd ++ piece.2) = false := by
      rw [Buffer.awaitsEnd_append pieceSome complete, ends, Bool.not_true]
    rw [← List.append_assoc] at lexed complete
    refine refuses_of_beginsSentence pieceScanned lexed.left ?_ ready
    exact ⟨later.flatMap Prod.snd ++ last.2, _, by simp [lastSome], lexed.right, complete⟩

/-- A definition over three texts is completed by the third, and one with a function of its own is
refused where a text ends with that function. -/
theorem definition_over_texts_nested :
    let opening : String × List Token :=
      ("def f begin", [⟨.function, "def", 1⟩, ⟨.identifier, "f", 5⟩, ⟨.beginMark, "begin", 7⟩])
    let plain : String × List Token := ("x", [⟨.identifier, "x", 1⟩])
    let inner : String × List Token := ("def g begin x end",
      [⟨.function, "def", 1⟩, ⟨.identifier, "g", 5⟩, ⟨.beginMark, "begin", 7⟩,
        ⟨.identifier, "x", 13⟩, ⟨.endMark, "end", 15⟩])
    let closing : String × List Token := ("end", [⟨.endMark, "end", 1⟩])
    (HoldsBack 4 [opening, plain] ∧
      (after 4 [opening.1, plain.1] closing.1).Completes (.function "f" [] [.get "x"]) ∧
      (after 4 [] "def f begin\nx\nend").Completes (.function "f" [] [.get "x"])) ∧
    (Derives (opening.2 ++ inner.2 ++ closing.2)
        (.function "f" [] [.function "g" [] [.get "x"]]) ∧
      HoldsBack 4 [opening] ∧ (after 4 [opening.1] inner.1).Refuses) := by
  intro opening plain inner closing
  have readPlain : Parser.expr 4 (opening.2 ++ plain.2 ++ closing.2) =
      .ok (.function "f" [] [.get "x"]) [] := rfl
  have readInner : Parser.expr 4 (opening.2 ++ inner.2 ++ closing.2) =
      .ok (.function "f" [] [.function "g" [] [.get "x"]]) [] := rfl
  have opens : Token.scan "def f begin" = .ok opening.2 := rfl
  have goesOn : Token.scan "x" = .ok plain.2 := rfl
  have nests : Token.scan "def g begin x end" = .ok inner.2 := rfl
  have closes : Token.scan "end" = .ok closing.2 := rfl
  constructor
  · have scanned : ∀ piece ∈ [opening, plain] ++ [closing],
        Token.scan piece.1 = .ok piece.2 ∧ piece.2 ≠ [] := by
      simp [opening, plain, closing, opens, goesOn, closes]
    have shallow : Settled Parser.tooDeep
        (Parser.expr 4 (([opening, plain] ++ [closing]).flatMap Prod.snd)) := trivial
    have judged := definition_over_texts scanned (Derives.of_expr_eq_ok readPlain) shallow
    exact judged.1 (by decide)
  · have scanned : ∀ piece ∈ [opening, inner] ++ [closing],
        Token.scan piece.1 = .ok piece.2 ∧ piece.2 ≠ [] := by
      simp [opening, inner, closing, opens, nests, closes]
    have shallow : Settled Parser.tooDeep
        (Parser.expr 4 (([opening, inner] ++ [closing]).flatMap Prod.snd)) := trivial
    have judged := definition_over_texts scanned (Derives.of_expr_eq_ok readInner) shallow
    exact ⟨Derives.of_expr_eq_ok readInner,
      judged.2 [opening] inner [] rfl (by decide) (by decide)⟩

end Reading

end PrefixCalc
