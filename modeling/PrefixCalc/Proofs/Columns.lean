import Mathlib.Data.List.Basic
import PrefixCalc.Text.Column

/-!
# Telling joined texts apart

Words that are joined by a separator can be told from the joined text if the first
character of the separator is in none of them (`eq_of_join_eq`). So can blocks of
lines that are joined by empty lines (`eq_of_join_blocks_eq`), and the cells of two
columns, whatever the width of the first one is (`map_cells_columns`).
-/

namespace PrefixCalc.Text

/-! ## Joined words -/

section

variable {α : Type} {mark : α} {behind : List α}

/-- What stands before the first mark and what stands behind it can be told from the whole. -/
theorem eq_and_eq_of_append_cons_eq {left right before after : List α} (free : mark ∉ left)
    (alsoFree : mark ∉ right) (same : left ++ mark :: before = right ++ mark :: after) :
    left = right ∧ before = after := by
  induction left generalizing right with
  | nil =>
    cases right with
    | nil => exact ⟨rfl, (List.cons.inj same).2⟩
    | cons first rest =>
      have head : mark = first := (List.cons.inj same).1
      exact absurd (head ▸ List.mem_cons_self) alsoFree
  | cons first rest ih =>
    cases right with
    | nil =>
      have head : first = mark := (List.cons.inj same).1
      exact absurd (head ▸ List.mem_cons_self) free
    | cons other others =>
      obtain ⟨rfl, tails⟩ := List.cons.inj same
      have later := ih (fun inside => free (List.mem_cons_of_mem first inside))
        (fun inside => alsoFree (List.mem_cons_of_mem first inside)) tails
      exact ⟨congrArg (first :: ·) later.1, later.2⟩

/-- One word alone has no mark, and two joined words have one. -/
theorem intercalate_cons_cons_ne {word first second : List α} {rest : List (List α)}
    (free : mark ∉ word) :
    (mark :: behind).intercalate (first :: second :: rest) ≠ word := by
  intro same
  apply free
  rw [← same, List.intercalate_cons_cons]
  simp

/-- Words without the mark that their separator starts with can be told from the joined words. -/
theorem eq_of_intercalate_eq {words others : List (List α)} (free : ∀ word ∈ words, mark ∉ word)
    (alsoFree : ∀ word ∈ others, mark ∉ word) (nonempty : words ≠ []) (alsoNonempty : others ≠ [])
    (same : (mark :: behind).intercalate words = (mark :: behind).intercalate others) :
    words = others := by
  -- The first mark stands behind the first word unless that is the only one, on both sides alike.
  induction words generalizing others with
  | nil => exact absurd rfl nonempty
  | cons word rest ih =>
    cases others with
    | nil => exact absurd rfl alsoNonempty
    | cons other more =>
      have head := free word List.mem_cons_self
      have otherHead := alsoFree other List.mem_cons_self
      cases rest with
      | nil =>
        rw [List.intercalate_singleton] at same
        cases more with
        | nil => rw [same, List.intercalate_singleton]
        | cons next more => exact absurd same.symm (intercalate_cons_cons_ne head)
      | cons following rest =>
        cases more with
        | nil =>
          rw [List.intercalate_singleton] at same
          exact absurd same (intercalate_cons_cons_ne otherHead)
        | cons next more =>
          rw [List.intercalate_cons_cons, List.intercalate_cons_cons, List.append_assoc,
            List.append_assoc, List.cons_append, List.cons_append] at same
          obtain ⟨heads, tails⟩ := eq_and_eq_of_append_cons_eq head otherHead same
          rw [heads, ih (fun word inside => free word (List.mem_cons_of_mem _ inside))
            (fun word inside => alsoFree word (List.mem_cons_of_mem _ inside))
            (List.cons_ne_nil _ _) (List.cons_ne_nil _ _) (List.append_cancel_left tails)]

/-- Words of which the first is not empty are not empty when joined. -/
theorem intercalate_eq_nil_iff {words : List (List α)} (start : words.head? ≠ some []) :
    (mark :: behind).intercalate words = [] ↔ words = [] := by
  constructor
  · intro nothing
    cases words with
    | nil => rfl
    | cons word rest =>
      have first : word = [] := by
        cases rest with
        | nil => rwa [List.intercalate_singleton] at nothing
        | cons next rest =>
          rw [List.intercalate_cons_cons] at nothing
          simp at nothing
      rw [first] at start
      exact absurd rfl start
  · intro none
    rw [none, List.intercalate_nil]

/-- Words without the mark, of which the first is not empty, can be told from the joined words, even
if there are none. -/
theorem eq_of_intercalate_eq_of_head? {words others : List (List α)}
    (free : ∀ word ∈ words, mark ∉ word) (alsoFree : ∀ word ∈ others, mark ∉ word)
    (start : words.head? ≠ some []) (alsoStart : others.head? ≠ some [])
    (same : (mark :: behind).intercalate words = (mark :: behind).intercalate others) :
    words = others := by
  have together : words = [] ↔ others = [] := by
    rw [← intercalate_eq_nil_iff start, same, intercalate_eq_nil_iff alsoStart]
  by_cases none : words = []
  · rw [none, together.mp none]
  · exact eq_of_intercalate_eq free alsoFree none (fun others => none (together.mpr others)) same

end

/-- Texts without the mark that their separator starts with, of which the first is not empty, can be
told from the joined text. -/
theorem eq_of_join_eq {separator : String} {mark : Char} {behind : List Char}
    (opens : separator.toList = mark :: behind) {words others : List String}
    (free : ∀ word ∈ words, mark ∉ word.toList) (alsoFree : ∀ word ∈ others, mark ∉ word.toList)
    (start : words.head? ≠ some "") (alsoStart : others.head? ≠ some "")
    (same : separator.intercalate words = separator.intercalate others) : words = others := by
  have opened {texts : List String} (start : texts.head? ≠ some "") :
      (texts.map String.toList).head? ≠ some [] := by
    intro nothing
    rw [List.head?_map, Option.map_eq_some_iff] at nothing
    obtain ⟨text, first, empty⟩ := nothing
    rw [String.toList_eq_nil_iff.mp empty] at first
    exact start first
  have closed {texts : List String} (free : ∀ text ∈ texts, mark ∉ text.toList) :
      ∀ letters ∈ texts.map String.toList, mark ∉ letters := by
    intro letters inside
    obtain ⟨text, listed, rfl⟩ := List.mem_map.mp inside
    exact free text listed
  have letters : (mark :: behind).intercalate (words.map String.toList) =
      (mark :: behind).intercalate (others.map String.toList) := by
    rw [← opens, ← String.toList_intercalate, ← String.toList_intercalate, same]
  have injective : Function.Injective String.toList := fun _ _ => String.toList_inj.mp
  exact List.map_injective_iff.mpr injective
    (eq_of_intercalate_eq_of_head? (closed free) (closed alsoFree) (opened start)
      (opened alsoStart) letters)

/-- What is in joined words is in the separator or in a word. -/
theorem mem_of_mem_intercalate {α : Type} {separator : List α} {words : List (List α)} {letter : α}
    (inside : letter ∈ separator.intercalate words) :
    letter ∈ separator ∨ ∃ word ∈ words, letter ∈ word := by
  induction words with
  | nil =>
    rw [List.intercalate_nil] at inside
    exact absurd inside List.not_mem_nil
  | cons word rest ih =>
    cases rest with
    | nil =>
      rw [List.intercalate_singleton] at inside
      exact .inr ⟨word, List.mem_cons_self, inside⟩
    | cons next rest =>
      rw [List.intercalate_cons_cons, List.mem_append, List.mem_append] at inside
      rcases inside with (first | between) | later
      · exact .inr ⟨word, List.mem_cons_self, first⟩
      · exact .inl between
      · refine (ih later).imp id fun ⟨other, listed, within⟩ => ?_
        exact ⟨other, List.mem_cons_of_mem word listed, within⟩

/-! ## Blocks of lines -/

section

variable {blocks : List (List String)}

/-- Joined blocks start with the first line of the first block. -/
theorem head?_intercalate {α : Type} (separator : List α) {word : List α} (rest : List (List α))
    (filled : word ≠ []) : (separator.intercalate (word :: rest)).head? = word.head? := by
  cases rest with
  | nil => rw [List.intercalate_singleton]
  | cons next rest =>
    cases word with
    | nil => exact absurd rfl filled
    | cons first others => rw [List.intercalate_cons_cons]; rfl

/-- Blocks joined by empty lines are the lines of all of them with an empty line between blocks. -/
theorem join_blocks (filled : ∀ block ∈ blocks, block ≠ []) :
    "\n\n".intercalate (blocks.map ("\n".intercalate ·)) =
      "\n".intercalate ([""].intercalate blocks) := by
  induction blocks with
  | nil => rfl
  | cons block rest ih =>
    have later := ih fun other inside => filled other (List.mem_cons_of_mem block inside)
    have here : block ≠ [] := filled block List.mem_cons_self
    cases rest with
    | nil => rw [List.map_singleton, String.intercalate_singleton, List.intercalate_singleton]
    | cons next rest =>
      have nextFilled : next ≠ [] := filled next (by simp)
      have lines : [""].intercalate (next :: rest) ≠ [] := by
        intro nothing
        have head := head?_intercalate [""] rest nextFilled
        rw [nothing] at head
        exact nextFilled (List.head?_eq_none_iff.mp head.symm)
      have separated : (block ++ [""]) ≠ [] := by simp
      -- An empty line has a line feed on either side: together they separate two blocks.
      have feeds : ("\n" ++ "" : String) ++ "\n" = "\n\n" := by decide
      rw [List.map_cons, List.map_cons, String.intercalate_cons_cons, ← List.map_cons, later,
        List.intercalate_cons_cons, String.intercalate_append_of_ne_nil separated lines,
        String.intercalate_append_of_ne_nil here (List.cons_ne_nil _ _),
        String.intercalate_singleton, ← feeds]
      simp only [String.append_assoc]

/-- Whether lines can be told apart as a block: there are some, and none is empty or has line
feeds. -/
structure IsBlock (lines : List String) : Prop where
  /-- There are lines. -/
  filled : lines ≠ []
  /-- No line is empty. -/
  noGap : "" ∉ lines
  /-- No line has line feeds. -/
  noFeed : ∀ line ∈ lines, '\n' ∉ line.toList

/-- The lines of joined blocks have no line feeds. -/
theorem lineFeed_not_mem_of_mem_intercalate (proper : ∀ block ∈ blocks, IsBlock block) :
    ∀ line ∈ [""].intercalate blocks, '\n' ∉ line.toList := by
  intro line inside
  rcases mem_of_mem_intercalate inside with gap | ⟨block, listed, within⟩
  · rw [List.mem_singleton.mp gap]
    decide
  · exact (proper block listed).noFeed line within

/-- The first line of joined blocks is not empty. -/
theorem head?_intercalate_ne (proper : ∀ block ∈ blocks, IsBlock block) :
    ([""].intercalate blocks).head? ≠ some "" := by
  cases blocks with
  | nil => simp
  | cons block rest =>
    have first := proper block List.mem_cons_self
    rw [head?_intercalate [""] rest first.filled]
    exact fun empty => first.noGap (List.mem_of_head? empty)

/-- Blocks can be told from the joined blocks, even if there are none. -/
theorem eq_of_join_blocks_eq {others : List (List String)}
    (proper : ∀ block ∈ blocks, IsBlock block) (alsoProper : ∀ block ∈ others, IsBlock block)
    (same : "\n\n".intercalate (blocks.map ("\n".intercalate ·)) =
      "\n\n".intercalate (others.map ("\n".intercalate ·))) : blocks = others := by
  have start {texts : List (List String)} (proper : ∀ block ∈ texts, IsBlock block) :
      texts.head? ≠ some [] :=
    fun empty => (proper [] (List.mem_of_head? empty)).filled rfl
  rw [join_blocks fun block inside => (proper block inside).filled,
    join_blocks fun block inside => (alsoProper block inside).filled] at same
  have feed : "\n".toList = '\n' :: [] := by decide
  have lines : [""].intercalate blocks = [""].intercalate others :=
    eq_of_join_eq feed (lineFeed_not_mem_of_mem_intercalate proper)
      (lineFeed_not_mem_of_mem_intercalate alsoProper) (head?_intercalate_ne proper)
      (head?_intercalate_ne alsoProper) same
  exact eq_of_intercalate_eq_of_head? (fun block inside => (proper block inside).noGap)
    (fun block inside => (alsoProper block inside).noGap) (start proper) (start alsoProper) lines

end

/-! ## Rows -/

/-- Whether the two cells of a row can be told apart in its line: the first has no spaces, the second
does not start with one, and neither has line feeds. -/
structure Legible (row : String × String) : Prop where
  /-- The first cell has no spaces. -/
  name : ' ' ∉ row.1.toList
  /-- The second cell does not start with a space. -/
  value : row.2.toList.head? ≠ some ' '
  /-- The first cell has no line feeds. -/
  nameLine : '\n' ∉ row.1.toList
  /-- The second cell has no line feeds. -/
  valueLine : '\n' ∉ row.2.toList

/-- The cells of a line: what stands before the first space, and what stands behind the spaces that
start there. -/
def cells (line : String) : String × String :=
  (String.ofList (line.toList.takeWhile (· != ' ')),
    String.ofList ((line.toList.dropWhile (· != ' ')).dropWhile (· == ' ')))

/-- A line is the first cell, spaces and the second cell. -/
theorem exists_toList_row (width : Nat) (row : String × String) :
    ∃ count, (padRight width row.1 ++ "   " ++ row.2).toList =
      row.1.toList ++ (List.replicate (count + 1) ' ' ++ row.2.toList) := by
  refine ⟨width - row.1.length + 2, ?_⟩
  have spaces : "   ".toList = List.replicate 3 ' ' := by decide
  rw [padRight, String.toList_append, String.toList_append, String.toList_append,
    String.toList_ofList, spaces, List.append_assoc, List.append_assoc, ← List.append_assoc
      (List.replicate _ ' '), ← List.replicate_add]

variable {row : String × String}

/-- The cells of a row can be told from its line, whatever the width of the column. -/
theorem cells_row (legible : Legible row) (width : Nat) :
    cells (padRight width row.1 ++ "   " ++ row.2) = row := by
  obtain ⟨count, line⟩ := exists_toList_row width row
  have noSpace : ∀ letter ∈ row.1.toList, (letter != ' ') = true := by
    intro letter inside
    rw [bne_iff_ne]
    rintro rfl
    exact legible.name inside
  have space : ∀ letter ∈ List.replicate (count + 1) ' ', (letter == ' ') = true := by
    intro letter inside
    rw [List.eq_of_mem_replicate inside, beq_self_eq_true]
  have value : row.2.toList.dropWhile (· == ' ') = row.2.toList := by
    cases letters : row.2.toList with
    | nil => rfl
    | cons first rest =>
      have differs : first ≠ ' ' := by
        intro same
        apply legible.value
        rw [letters, same, List.head?_cons]
      exact List.dropWhile_cons_of_neg (by simpa using differs)
  have before : (row.1.toList ++ (List.replicate (count + 1) ' ' ++ row.2.toList)).takeWhile
      (· != ' ') = row.1.toList := by
    rw [List.takeWhile_append_of_pos noSpace]
    simp [List.replicate_succ]
  have rest : (row.1.toList ++ (List.replicate (count + 1) ' ' ++ row.2.toList)).dropWhile
      (· != ' ') = List.replicate (count + 1) ' ' ++ row.2.toList := by
    rw [List.dropWhile_append_of_pos noSpace]
    simp [List.replicate_succ]
  unfold cells
  rw [line, before, rest, List.dropWhile_append_of_pos space, value, String.ofList_toList,
    String.ofList_toList]

/-- The line of a row has no line feeds. -/
theorem lineFeed_not_mem_row (legible : Legible row) (width : Nat) :
    '\n' ∉ (padRight width row.1 ++ "   " ++ row.2).toList := by
  obtain ⟨count, line⟩ := exists_toList_row width row
  rw [line, List.mem_append, List.mem_append, not_or, not_or]
  refine ⟨legible.nameLine, fun inside => ?_, legible.valueLine⟩
  exact absurd (List.eq_of_mem_replicate inside) (by decide)

/-- The line of a row is not empty. -/
theorem row_ne_empty (width : Nat) (row : String × String) :
    padRight width row.1 ++ "   " ++ row.2 ≠ "" := by
  obtain ⟨count, line⟩ := exists_toList_row width row
  intro empty
  rw [empty] at line
  simp [List.replicate_succ] at line

/-! ## Columns -/

/-- The header, the dashes under it and the rows. -/
def withHeader (header : String × String) (rows : List (String × String)) :
    List (String × String) :=
  header :: (rule header.1.length, rule header.2.length) :: rows

variable {header : String × String} {rows : List (String × String)} {line : String}

/-- Dashes are legible. -/
theorem legible_rule (first second : Nat) : Legible (rule first, rule second) := by
  have dashes {width : Nat} {letter : Char} (other : letter ≠ '-') :
      letter ∉ (rule width).toList := by
    rw [rule, String.toList_ofList]
    exact fun inside => other (List.eq_of_mem_replicate inside)
  exact ⟨dashes (by decide), fun start => dashes (by decide) (List.mem_of_head? start),
    dashes (by decide), dashes (by decide)⟩

/-- Under a legible header legible rows stay legible. -/
theorem legible_withHeader (top : Legible header) (legible : ∀ row ∈ rows, Legible row) :
    ∀ row ∈ withHeader header rows, Legible row := by
  intro row inside
  rcases List.mem_cons.mp inside with rfl | below
  · exact top
  · rcases List.mem_cons.mp below with rfl | listed
    · exact legible_rule _ _
    · exact legible row listed

/-- A line of two columns is that of a row. -/
theorem exists_row_of_mem_columns (inside : line ∈ columns header rows) :
    ∃ width, ∃ row ∈ withHeader header rows, line = padRight width row.1 ++ "   " ++ row.2 := by
  obtain ⟨row, listed, rfl⟩ := List.mem_map.mp inside
  exact ⟨_, row, listed, rfl⟩

/-- The rows can be told from the lines of two columns. -/
theorem map_cells_columns (legible : ∀ row ∈ withHeader header rows, Legible row) :
    (columns header rows).map cells = withHeader header rows := by
  unfold columns
  rw [List.map_map]
  refine (List.map_congr_left fun row inside => ?_).trans (List.map_id _)
  exact cells_row (legible row inside) _

/-- Two columns of legible rows are a block. -/
theorem isBlock_columns (legible : ∀ row ∈ withHeader header rows, Legible row) :
    IsBlock (columns header rows) where
  filled := List.cons_ne_nil _ _
  noGap inside := by
    obtain ⟨width, row, -, empty⟩ := exists_row_of_mem_columns inside
    exact row_ne_empty width row empty.symm
  noFeed line inside := by
    obtain ⟨width, row, listed, rfl⟩ := exists_row_of_mem_columns inside
    exact lineFeed_not_mem_row (legible row listed) width

end PrefixCalc.Text
