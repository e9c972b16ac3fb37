import PrefixCalc.Proofs.Modes

/-!
# Semicolons and line feeds

Expressions are divided by semicolons in a line and by line feeds in a text. Where no
command is among them it makes no difference which of the two stands between two
expressions: a text is taken as the expressions that are left of its pieces, one after
another up to the first that fails (`separators_interchangeable`). Lines and pieces are
two splittings, one inside the other; `expressions_of_joined` says that together they
find the pieces of a joined text again.
-/

namespace PrefixCalc

namespace Text

/-- Whether a text is some pieces with a semicolon or a line feed between any two neighbours. -/
inductive Joined : List String → String → Prop
  /-- No pieces make the empty text. -/
  | none : Joined [] ""
  /-- One piece is a text. -/
  | single (piece : String) : Joined [piece] piece
  /-- A semicolon stands before the second piece. -/
  | semicolon (piece : String) {next : String} {rest : List String} {text : String} :
      Joined (next :: rest) text → Joined (piece :: next :: rest) (piece ++ ";" ++ text)
  /-- A line feed stands before the second piece. -/
  | lineFeed (piece : String) {next : String} {rest : List String} {text : String} :
      Joined (next :: rest) text → Joined (piece :: next :: rest) (piece ++ "\n" ++ text)

/-- What is left of some pieces when they are trimmed and blank ones are dropped. -/
def expressions (pieces : List String) : List String :=
  (pieces.map trim).filter fun piece => !piece.isEmpty

/-! ## Splitting what was joined -/

/-- The part before the first separator is split off. -/
theorem splitAt_append_separator {separator : Char} {front : List Char} (absent : separator ∉ front)
    (rest : List Char) :
    splitAt separator (front ++ separator :: rest) = front :: splitAt separator rest := by
  induction front with
  | nil =>
    show splitAt separator (separator :: rest) = [] :: splitAt separator rest
    rw [splitAt, if_pos rfl]
  | cons first front ih =>
    rw [List.mem_cons, not_or] at absent
    rw [List.cons_append, splitAt, if_neg (Ne.symm absent.1), ih absent.2]
    rfl

/-- A character that ends no line starts the first line. -/
theorem splitLines_cons {character : Char} (inLine : isLineBreak character = false)
    (rest : List Char) :
    splitLines (character :: rest) = consFirstLine character (splitLines rest) := by
  have plain : character ≠ '\r' := by
    rintro rfl
    exact absurd inLine (by decide)
  rw [splitLines, inLine]
  · rfl
  · intro _ carriage
    exact absurd carriage plain

/-- The line before the first line feed is split off. -/
theorem splitLines_append_lineFeed {front : List Char}
    (inLine : ∀ character ∈ front, isLineBreak character = false) (rest : List Char) :
    splitLines (front ++ '\n' :: rest) = front :: splitLines rest := by
  induction front with
  | nil =>
    show splitLines ('\n' :: rest) = [] :: splitLines rest
    rw [splitLines]
    · rfl
    · intro _ carriage
      exact absurd carriage (by decide)
  | cons first front ih =>
    rw [List.forall_mem_cons] at inLine
    rw [List.cons_append, splitLines_cons inLine.1, ih inLine.2]
    rfl

/-- Text in front of others without a line break between them stands at the start of their first
line. -/
theorem exists_splitLines_append {front : List Char} (filled : front ≠ [])
    (inLine : ∀ character ∈ front, isLineBreak character = false) (rest : List Char) :
    ∃ first later, splitLines (front ++ rest) = (front ++ first) :: later ∧
      (splitLines rest = first :: later ∨ (splitLines rest = [] ∧ first = [] ∧ later = [])) := by
  induction front with
  | nil => exact absurd rfl filled
  | cons character front ih =>
    rw [List.forall_mem_cons] at inLine
    rw [List.cons_append, splitLines_cons inLine.1]
    by_cases last : front = []
    · subst last
      cases split : splitLines rest with
      | nil =>
        exact ⟨[], [], by rw [List.nil_append, split]; rfl, .inr ⟨rfl, rfl, rfl⟩⟩
      | cons first later =>
        exact ⟨first, later, by rw [List.nil_append, split]; rfl, .inl rfl⟩
    · obtain ⟨first, later, split, same⟩ := ih last inLine.2
      exact ⟨first, later, by rw [split]; rfl, same⟩

/-- A text without line breaks is one line, or none if it is empty. -/
theorem lines_of_inLine {text : String}
    (inLine : ∀ character ∈ text.toList, isLineBreak character = false) :
    lines text = if text.isEmpty then [] else [text] := by
  unfold lines
  by_cases empty : text.toList = []
  · rw [empty, if_pos (by simpa using empty)]
    rfl
  · obtain ⟨first, later, split, same⟩ := exists_splitLines_append empty inLine []
    have nothing : first = [] ∧ later = [] := by
      rcases same with more | ⟨-, none⟩
      · cases more
      · exact none
    rw [List.append_nil, nothing.1, nothing.2, List.append_nil] at split
    rw [split, if_neg (by simpa using empty), List.map_singleton, String.ofList_toList]

/-- A piece with a line feed behind it is a line. -/
theorem lines_append_lineFeed {piece : String}
    (inLine : ∀ character ∈ piece.toList, isLineBreak character = false) (text : String) :
    lines (piece ++ "\n" ++ text) = piece :: lines text := by
  have characters : (piece ++ "\n" ++ text).toList = piece.toList ++ '\n' :: text.toList := by simp
  unfold lines
  rw [characters, splitLines_append_lineFeed inLine, List.map_cons, String.ofList_toList]

/-- A piece with a semicolon behind it stands at the start of the first line of what follows, or
alone if nothing follows. -/
theorem exists_lines_append_semicolon {piece : String}
    (inLine : ∀ character ∈ piece.toList, isLineBreak character = false) (text : String) :
    ∃ first later, lines (piece ++ ";" ++ text) = (piece ++ ";" ++ first) :: later ∧
      (lines text = first :: later ∨ (lines text = [] ∧ first = "" ∧ later = [])) := by
  have characters : (piece ++ ";" ++ text).toList = (piece.toList ++ [';']) ++ text.toList := by
    simp
  have inLine : ∀ character ∈ piece.toList ++ [';'], isLineBreak character = false :=
    List.forall_mem_append.mpr ⟨inLine, List.forall_mem_singleton.mpr (by decide)⟩
  obtain ⟨first, later, split, rest⟩ := exists_splitLines_append (by simp) inLine text.toList
  refine ⟨String.ofList first, later.map String.ofList, ?_, ?_⟩
  · unfold lines
    rw [characters, split, List.map_cons, String.ofList_append, String.ofList_append,
      String.ofList_toList]
  · unfold lines
    rcases rest with more | ⟨none, rfl, rfl⟩
    · exact .inl (by rw [more, List.map_cons])
    · exact .inr ⟨by rw [none]; rfl, rfl, rfl⟩

/-! ## The pieces of a line -/

/-- The pieces of a line, by the parts between its semicolons. -/
theorem pieces_eq (line : String) :
    pieces line = expressions ((splitAt ';' line.toList).map String.ofList) := by
  unfold pieces expressions trim
  induction splitAt ';' line.toList with
  | nil => rfl
  | cons part rest ih =>
    simp only [List.map_cons, List.filter_cons, String.toList_ofList]
    by_cases blank : trimWhile isBlank part = []
    · simpa [blank] using ih
    · simpa [blank] using ih

/-- What is left of some pieces and others is left of all of them. -/
theorem expressions_append (pieces others : List String) :
    expressions (pieces ++ others) = expressions pieces ++ expressions others := by
  unfold expressions
  rw [List.map_append, List.filter_append]

/-- The pieces of a line that starts with a part and a semicolon. -/
theorem pieces_append_semicolon {part : String} (absent : ';' ∉ part.toList) (rest : String) :
    pieces (part ++ ";" ++ rest) = expressions [part] ++ pieces rest := by
  have joined : (part ++ ";" ++ rest).toList = part.toList ++ ';' :: rest.toList := by simp
  rw [pieces_eq, joined, splitAt_append_separator absent, pieces_eq, ← expressions_append,
    List.map_cons, String.ofList_toList]
  rfl

/-- The pieces of a line without semicolons. -/
theorem pieces_of_not_mem {line : String} (absent : ';' ∉ line.toList) :
    pieces line = expressions [line] := by
  rw [pieces_eq, splitAt_of_not_mem absent, List.map_singleton, String.ofList_toList]

end Text

namespace Session

open Text

/-- Whether a text may be a piece between separators: it has neither of them, nor any other line
break, and is no command. -/
structure IsPiece (text : String) : Prop where
  /-- There is no semicolon in it. -/
  semicolon : ';' ∉ text.toList
  /-- There is no line break in it. -/
  inLine : ∀ character ∈ text.toList, isLineBreak character = false
  /-- It is no command. -/
  plain : Command.ofLine? (trim text) = none

instance (text : String) : Decidable (IsPiece text) :=
  decidable_of_iff
    (';' ∉ text.toList ∧ text.toList.all (!isLineBreak ·) = true ∧
      Command.ofLine? (trim text) = none)
    ⟨fun ⟨semicolon, inLine, plain⟩ => ⟨semicolon, by simpa using inLine, plain⟩,
      fun piece => ⟨piece.semicolon, by simpa using piece.inLine, piece.plain⟩⟩

/-- A line with a semicolon is no command. -/
theorem ofLine?_eq_none_of_semicolon {line : String} (inside : ';' ∈ line.toList) :
    Command.ofLine? (trim line) = none := by
  rw [Option.eq_none_iff_forall_ne_some]
  intro command named
  have whole := (Command.refused_of_ofLine?_eq_some named).1
  rw [trim, String.toList_ofList] at whole
  exact whole (mem_trimWhile inside rfl)

/-- The lines of a joined text are no commands, and their expressions are those of the pieces. -/
theorem expressions_of_joined {pieces : List String} {text : String} (joined : Joined pieces text)
    (fine : ∀ piece ∈ pieces, IsPiece piece) :
    (∀ line ∈ lines text, Command.ofLine? (trim line) = none) ∧
      (lines text).flatMap Text.pieces = expressions pieces := by
  induction joined with
  | none => exact ⟨fun _ inside => absurd inside List.not_mem_nil, rfl⟩
  | single piece =>
    have isPiece := fine piece List.mem_cons_self
    rw [lines_of_inLine isPiece.inLine]
    by_cases empty : piece.isEmpty = true
    · rw [if_pos empty, String.isEmpty_iff.mp empty]
      exact ⟨fun _ inside => absurd inside List.not_mem_nil, by decide +kernel⟩
    · rw [if_neg empty, List.flatMap_singleton, pieces_of_not_mem isPiece.semicolon]
      refine ⟨fun line inside => ?_, rfl⟩
      rw [List.mem_singleton.mp inside]
      exact isPiece.plain
  | @lineFeed piece next rest text joined ih =>
    rw [List.forall_mem_cons] at fine
    obtain ⟨plain, same⟩ := ih fine.2
    rw [lines_append_lineFeed fine.1.inLine, List.flatMap_cons, same,
      pieces_of_not_mem fine.1.semicolon, ← expressions_append]
    exact ⟨List.forall_mem_cons.mpr ⟨fine.1.plain, plain⟩, rfl⟩
  | @semicolon piece next rest text joined ih =>
    rw [List.forall_mem_cons] at fine
    obtain ⟨plain, same⟩ := ih fine.2
    obtain ⟨first, later, split, linesOf⟩ := exists_lines_append_semicolon fine.1.inLine text
    have divided : ';' ∈ (piece ++ ";" ++ first).toList := by simp
    have found : (lines text).flatMap Text.pieces =
        Text.pieces first ++ later.flatMap Text.pieces := by
      rcases linesOf with more | ⟨none, rfl, rfl⟩
      · rw [more, List.flatMap_cons]
      · rw [none]
        decide +kernel
    have plainLater : ∀ line ∈ later, Command.ofLine? (trim line) = none := by
      intro line inside
      rcases linesOf with more | ⟨-, -, rfl⟩
      · exact plain line (more ▸ List.mem_cons_of_mem first inside)
      · exact absurd inside List.not_mem_nil
    rw [split, List.flatMap_cons, pieces_append_semicolon fine.1.semicolon, List.append_assoc,
      ← found, same, ← expressions_append]
    exact ⟨List.forall_mem_cons.mpr ⟨ofLine?_eq_none_of_semicolon divided, plainLater⟩, rfl⟩

/-! ## Taking what was joined -/

/-- What comes of taking expressions in order: each is taken where the one before it left the
session, and the first that does not succeed is the last that is taken. -/
inductive TakesInOrder : List String → Session → EStateM.Result Escape Session Bool → Prop
  /-- All expressions were taken. -/
  | done (session : Session) : TakesInOrder [] session (.ok true session)
  /-- An expression fails. -/
  | fails {text : String} {rest : List String} {session after : Session} :
      submitExpr text session = .ok false after →
      TakesInOrder (text :: rest) session (.ok false after)
  /-- Taking an expression is broken off. -/
  | escapes {text : String} {rest : List String} {session after : Session} {escape : Escape} :
      submitExpr text session = .error escape after →
      TakesInOrder (text :: rest) session (.error escape after)
  /-- An expression succeeds and the others are taken. -/
  | goesOn {text : String} {rest : List String} {session after : Session}
      {result : EStateM.Result Escape Session Bool} :
      submitExpr text session = .ok true after → TakesInOrder rest after result →
      TakesInOrder (text :: rest) session result

/-- Expressions are taken in order up to the first that fails. -/
theorem allOf_submitExpr_eq_iff {texts : List String} {session : Session}
    {result : EStateM.Result Escape Session Bool} :
    allOf submitExpr texts session = result ↔ TakesInOrder texts session result := by
  constructor
  · rintro rfl
    induction texts generalizing session with
    | nil => exact .done session
    | cons text rest ih =>
      rw [allOf]
      cases taken : submitExpr text session with
      | error escape after =>
        rw [bind_of_error taken]
        exact .escapes taken
      | ok success after =>
        rw [bind_of_ok taken]
        cases success with
        | true => exact .goesOn taken ih
        | false => exact .fails taken
  · intro takes
    induction takes with
    | done => rfl
    | fails taken =>
      rw [allOf, bind_of_ok taken]
      rfl
    | escapes taken => rw [allOf, bind_of_error taken]
    | goesOn taken _ ih =>
      rw [allOf, bind_of_ok taken]
      exact ih

/-- Semicolons and line feeds are interchangeable: whichever stand between pieces that are no
commands, a session does what taking the pieces one by one does, up to the first that fails. -/
theorem separators_interchangeable {pieces : List String}
    (fine : ∀ piece ∈ pieces, IsPiece piece) {text : String} (joined : Joined pieces text)
    (session : Session) (result : EStateM.Result Escape Session Bool) :
    submitText text session = result ↔ TakesInOrder (expressions pieces) session result := by
  obtain ⟨plain, same⟩ := expressions_of_joined joined fine
  rw [submitText_eq plain, same, allOf_submitExpr_eq_iff]

/-- A definition over three pieces and a failure before the last piece, with both separators. -/
theorem separators_interchangeable_definition :
    (∀ piece ∈ ["def f a begin", " ", "+ a 1 end", "xprint true ", "f", ":env 1"],
      IsPiece piece) ∧
    Joined ["def f a begin", " ", "+ a 1 end", "xprint true ", "f", ":env 1"]
      "def f a begin; \n+ a 1 end;xprint true \nf;:env 1" ∧
    ∀ session result,
      submitText "def f a begin; \n+ a 1 end;xprint true \nf;:env 1" session = result ↔
        TakesInOrder ["def f a begin", "+ a 1 end", "xprint true", "f", ":env 1"] session
          result := by
  have fine : ∀ piece ∈ ["def f a begin", " ", "+ a 1 end", "xprint true ", "f", ":env 1"],
      IsPiece piece := by decide +kernel
  have joined : Joined ["def f a begin", " ", "+ a 1 end", "xprint true ", "f", ":env 1"]
      "def f a begin; \n+ a 1 end;xprint true \nf;:env 1" :=
    .semicolon _ (.lineFeed _ (.semicolon _ (.lineFeed _ (.semicolon _ (.single _)))))
  have left : expressions ["def f a begin", " ", "+ a 1 end", "xprint true ", "f", ":env 1"] =
      ["def f a begin", "+ a 1 end", "xprint true", "f", ":env 1"] := by decide +kernel
  refine ⟨fine, joined, fun session result => ?_⟩
  rw [← left]
  exact separators_interchangeable fine joined session result

end Session

end PrefixCalc
