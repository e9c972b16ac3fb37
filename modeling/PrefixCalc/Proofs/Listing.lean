import Mathlib.Data.List.Forall2
import PrefixCalc.Environment
import PrefixCalc.Proofs.Columns
import PrefixCalc.Proofs.NumberText

/-!
# Listings

The listing of an environment tells its variables with their values and its
functions with their parameters, as long as all names are identifiers
(`Environment.listing_tells_apart`). Identifiers have neither spaces nor commas nor
line feeds (`Text.not_mem_of_isIdentifier`), and the texts of values are plain
(`Value.isPlain_of_mem_text`), so that the rows of both tables can be told from the
lines (`Environment.rows_eq_of_listing_eq`).
-/

namespace PrefixCalc

namespace Text

/-! ## Names -/

/-- The characters of an identifier are word characters. -/
theorem isWordCharacter_of_mem {word : List Char} (identifier : isIdentifier word = true)
    {character : Char} (inside : character ∈ word) : isWordCharacter character = true := by
  cases word with
  | nil => exact absurd inside List.not_mem_nil
  | cons first rest =>
    rw [isIdentifier, Bool.and_eq_true, List.all_eq_true] at identifier
    rcases List.mem_cons.mp inside with rfl | later
    · rw [isWordStart, Bool.and_eq_true] at identifier
      rw [isWordCharacter, identifier.1.1, Bool.or_true]
    · exact identifier.2 character later

/-- An identifier has no character of another kind. -/
theorem not_mem_of_isIdentifier {word : List Char} (identifier : isIdentifier word = true)
    {character : Char} (foreign : isWordCharacter character = false) : character ∉ word := by
  intro inside
  rw [isWordCharacter_of_mem identifier inside] at foreign
  exact absurd foreign (by decide)

end Text

/-- The text of a value is plain. -/
theorem Value.isPlain_of_mem_text {value : Value} {character : Char}
    (inside : character ∈ value.text.toList) : Double.Numeral.IsPlain character := by
  cases value with
  | number x => exact Double.isPlain_of_mem_write inside
  | boolean p =>
    have plain : ((Value.boolean p).text.toList.all fun letter =>
        decide (Double.Numeral.IsPlain letter)) = true := by
      cases p with
      | true => decide
      | false => decide
    exact of_decide_eq_true (List.all_eq_true.mp plain character inside)

namespace Function

variable {function other : Function}

/-- The parameters can be told from their text if they are identifiers. -/
theorem parameters_eq_of_signature_eq
    (named : ∀ parameter ∈ function.parameters, Text.isIdentifier parameter.toList = true)
    (alsoNamed : ∀ parameter ∈ other.parameters, Text.isIdentifier parameter.toList = true)
    (same : function.signature = other.signature) : function.parameters = other.parameters := by
  have comma : Text.isWordCharacter ',' = false := by decide +kernel
  have separator : ", ".toList = ',' :: [' '] := by decide
  have start {names : List String}
      (named : ∀ name ∈ names, Text.isIdentifier name.toList = true) : names.head? ≠ some "" := by
    intro empty
    exact absurd (named "" (List.mem_of_head? empty)) (by decide)
  have joined : ", ".intercalate function.parameters = ", ".intercalate other.parameters := by
    have letters := congrArg String.toList same
    simp only [signature, String.toList_append] at letters
    exact String.toList_inj.mp (List.append_cancel_left (List.append_cancel_right letters))
  exact Text.eq_of_join_eq separator
    (fun name inside => Text.not_mem_of_isIdentifier (named name inside) comma)
    (fun name inside => Text.not_mem_of_isIdentifier (alsoNamed name inside) comma)
    (start named) (start alsoNamed) joined

/-- The text of parameters has no line feeds if they are identifiers. -/
theorem lineFeed_not_mem_signature
    (named : ∀ parameter ∈ function.parameters, Text.isIdentifier parameter.toList = true) :
    '\n' ∉ function.signature.toList := by
  have joined : '\n' ∉ (", ".intercalate function.parameters).toList := by
    rw [String.toList_intercalate]
    intro inside
    rcases Text.mem_of_mem_intercalate inside with between | ⟨letters, listed, within⟩
    · exact absurd between (by decide)
    · obtain ⟨name, isName, rfl⟩ := List.mem_map.mp listed
      exact Text.not_mem_of_isIdentifier (named name isName) (by decide +kernel) within
  rw [signature, String.toList_append, String.toList_append, List.mem_append, List.mem_append,
    not_or, not_or]
  exact ⟨⟨by decide, joined⟩, by decide⟩

end Function

/-! ## Environments -/

namespace Environment

/-- Whether all names of an environment are identifiers. -/
structure WellNamed (environment : Environment) : Prop where
  /-- Variables have identifiers as names. -/
  locals : ∀ entry ∈ environment.locals.entries, Text.isIdentifier entry.1.toList = true
  /-- Functions have identifiers as names. -/
  functions : ∀ entry ∈ environment.functions.entries, Text.isIdentifier entry.1.toList = true
  /-- Parameters have identifiers as names. -/
  parameters : ∀ entry ∈ environment.functions.entries, ∀ parameter ∈ entry.2.parameters,
    Text.isIdentifier parameter.toList = true

/-- Both tables with their headers; a table without rows is left out. -/
def tables (locals functions : List (String × String)) : List (List (String × String)) :=
  (if locals.isEmpty then [] else [Text.withHeader ("var", "value") locals]) ++
    if functions.isEmpty then [] else [Text.withHeader ("Func", "Params") functions]

/-- The rows can be told from the tables by the headers. -/
theorem rows_eq_of_tables_eq {locals functions others otherFunctions : List (String × String)}
    (same : tables locals functions = tables others otherFunctions) :
    locals = others ∧ functions = otherFunctions := by
  -- Each table is there or not on either side, and the two headers have different words.
  cases locals <;> cases functions <;> cases others <;> cases otherFunctions <;>
    simp_all [tables, Text.withHeader]

variable {environment left right : Environment}

namespace WellNamed

/-- The rows of variables are legible, their header included. -/
theorem legible_locals (named : environment.WellNamed) :
    ∀ row ∈ Text.withHeader ("var", "value") environment.locals.rows, Text.Legible row := by
  refine Text.legible_withHeader ⟨by decide, by decide, by decide, by decide⟩ fun row inside => ?_
  obtain ⟨entry, listed, rfl⟩ := List.mem_map.mp inside
  have identifier := named.locals entry listed
  have plain {letter : Char} (within : letter ∈ entry.2.text.toList) :
      Text.isLayout letter = false := (Value.isPlain_of_mem_text within).2.1
  constructor
  · exact Text.not_mem_of_isIdentifier identifier (by decide +kernel)
  · exact fun start => absurd (plain (List.mem_of_head? start)) (by decide)
  · exact Text.not_mem_of_isIdentifier identifier (by decide +kernel)
  · exact fun within => absurd (plain within) (by decide)

/-- The rows of functions are legible, their header included. -/
theorem legible_functions (named : environment.WellNamed) :
    ∀ row ∈ Text.withHeader ("Func", "Params") environment.functions.rows, Text.Legible row := by
  refine Text.legible_withHeader ⟨by decide, by decide, by decide, by decide⟩ fun row inside => ?_
  obtain ⟨entry, listed, rfl⟩ := List.mem_map.mp inside
  have identifier := named.functions entry listed
  constructor
  · exact Text.not_mem_of_isIdentifier identifier (by decide +kernel)
  · have opened : entry.2.signature.toList.head? = some '(' := by
      simp [Function.signature, String.toList_append]
    rw [opened]
    decide
  · exact Text.not_mem_of_isIdentifier identifier (by decide +kernel)
  · exact Function.lineFeed_not_mem_signature (named.parameters entry listed)

/-- The blocks of a listing can be told apart. -/
theorem isBlock (named : environment.WellNamed) : ∀ block ∈ environment.blocks, Text.IsBlock block := by
  intro block inside
  rcases List.mem_append.mp inside with isLocals | isFunctions
  · split at isLocals
    · exact absurd isLocals List.not_mem_nil
    · rw [List.mem_singleton.mp isLocals]
      exact Text.isBlock_columns named.legible_locals
  · split at isFunctions
    · exact absurd isFunctions List.not_mem_nil
    · rw [List.mem_singleton.mp isFunctions]
      exact Text.isBlock_columns named.legible_functions

/-- The tables can be told from the blocks. -/
theorem map_cells_blocks (named : environment.WellNamed) :
    environment.blocks.map (List.map Text.cells) =
      tables environment.locals.rows environment.functions.rows := by
  have locals : environment.locals.listing.map Text.cells =
      Text.withHeader ("var", "value") environment.locals.rows :=
    Text.map_cells_columns named.legible_locals
  have functions : environment.functions.listing.map Text.cells =
      Text.withHeader ("Func", "Params") environment.functions.rows :=
    Text.map_cells_columns named.legible_functions
  have noLocals : environment.locals.rows.isEmpty = environment.locals.isEmpty :=
    List.isEmpty_map
  have noFunctions : environment.functions.rows.isEmpty = environment.functions.isEmpty :=
    List.isEmpty_map
  unfold blocks tables
  rw [noLocals, noFunctions, List.map_append]
  split <;> split <;> simp [locals, functions]

end WellNamed

/-- The rows of both tables can be told from the listing. -/
theorem rows_eq_of_listing_eq (named : left.WellNamed) (alsoNamed : right.WellNamed)
    (same : left.listing = right.listing) :
    left.locals.rows = right.locals.rows ∧ left.functions.rows = right.functions.rows := by
  have blocks : left.blocks = right.blocks :=
    Text.eq_of_join_blocks_eq named.isBlock alsoNamed.isBlock same
  apply rows_eq_of_tables_eq
  rw [← named.map_cells_blocks, ← alsoNamed.map_cells_blocks, blocks]

/-- Lists whose elements are mapped to the same are related element by element as far as what is
mapped to the same is. -/
theorem forall₂_of_map_eq {α β γ : Type} {first : α → γ} {second : β → γ}
    {relation : α → β → Prop} {elements : List α} {others : List β}
    (same : elements.map first = others.map second)
    (related : ∀ element ∈ elements, ∀ other ∈ others, first element = second other →
      relation element other) : List.Forall₂ relation elements others := by
  induction elements generalizing others with
  | nil =>
    rw [List.map_nil, eq_comm, List.map_eq_nil_iff] at same
    rw [same]
    exact .nil
  | cons element rest ih =>
    cases others with
    | nil => exact absurd same (List.cons_ne_nil _ _)
    | cons other more =>
      obtain ⟨heads, tails⟩ := List.cons.inj same
      refine .cons (related element List.mem_cons_self other List.mem_cons_self heads) ?_
      exact ih tails fun later inside partner alsoInside =>
        related later (List.mem_cons_of_mem _ inside) partner (List.mem_cons_of_mem _ alsoInside)

/-- The listing of an environment whose names are all identifiers tells its variables and their
values, and its functions and their parameters. -/
theorem listing_tells_apart (named : left.WellNamed) (alsoNamed : right.WellNamed)
    (same : left.listing = right.listing) :
    List.Forall₂ (fun entry other => entry.1 = other.1 ∧ entry.2.Identical other.2)
      left.locals.entries right.locals.entries ∧
    List.Forall₂ (fun entry other =>
        entry.1 = other.1 ∧ entry.2.parameters = other.2.parameters)
      left.functions.entries right.functions.entries := by
  obtain ⟨locals, functions⟩ := rows_eq_of_listing_eq named alsoNamed same
  constructor
  · refine forall₂_of_map_eq locals fun entry _ other _ rows => ?_
    obtain ⟨names, texts⟩ := Prod.mk.inj rows
    exact ⟨names, Value.identical_of_text_eq texts⟩
  · refine forall₂_of_map_eq functions fun entry listed other alsoListed rows => ?_
    obtain ⟨names, texts⟩ := Prod.mk.inj rows
    exact ⟨names, Function.parameters_eq_of_signature_eq (named.parameters entry listed)
      (alsoNamed.parameters other alsoListed) texts⟩

/-- A NaN in a wide column, a truth value and two functions of one listing with different bodies. -/
theorem listing_tells_apart_bodies :
    let locals : Variables := ⟨[("total_1", .number Double.nan), ("b", .boolean true)]⟩
    let left : Environment := ⟨locals, ⟨[("f", ⟨["x", "y"], [.get "x"]⟩), ("g", ⟨[], []⟩)]⟩⟩
    let right : Environment := ⟨locals, ⟨[("f", ⟨["x", "y"], []⟩), ("g", ⟨[], [.get "x"]⟩)]⟩⟩
    (left.WellNamed ∧ right.WellNamed ∧ left.listing = right.listing) ∧
    List.Forall₂ (fun entry other => entry.1 = other.1 ∧ entry.2.Identical other.2)
      left.locals.entries right.locals.entries ∧
    List.Forall₂ (fun entry other =>
        entry.1 = other.1 ∧ entry.2.parameters = other.2.parameters)
      left.functions.entries right.functions.entries := by
  intro locals left right
  have named : left.WellNamed := ⟨by decide +kernel, by decide +kernel, by decide +kernel⟩
  have alsoNamed : right.WellNamed := ⟨by decide +kernel, by decide +kernel, by decide +kernel⟩
  have same : left.listing = right.listing := rfl
  exact ⟨⟨named, alsoNamed, same⟩, listing_tells_apart named alsoNamed same⟩

end Environment

end PrefixCalc
