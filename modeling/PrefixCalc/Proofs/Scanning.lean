import Mathlib.Data.List.Forall2
import PrefixCalc.Token.Buffer

/-!
# Every word, in its place

A text is scanned by its segments. Here it is looked at place by place: a longest run
without blanks starts at a place before which there is nothing or a blank (`isRun_iff`),
its column counts the characters since the last line feed, and a place offends if a
refused blank or a run without a kind starts there. Scanning does what the places say
(`ofSegments_eq_ofPlaces`): it gives one token for each run, or the error of the leftmost
offence, and then the waiting tokens stay as they were (`adds_all_runs_or_nothing`).
-/

namespace PrefixCalc

namespace Text

/-! ## Runs -/

/-- Whether a text begins with a blank, if it is not empty. -/
def OpensBlank (text : List Char) : Prop :=
  ∀ character, text.head? = some character → isBlank character = true

/-- Whether a text ends in a blank, if it is not empty. -/
def ClosesBlank (text : List Char) : Prop :=
  ∀ character, text.getLast? = some character → isBlank character = true

/-- Whether a part of a text is a longest run without blanks, given what stands before it. -/
def IsRun (text before run : List Char) : Prop :=
  ∃ after, text = before ++ run ++ after ∧ run ≠ [] ∧
    (∀ character ∈ run, isBlank character = false) ∧ ClosesBlank before ∧ OpensBlank after

/-- No blank stands before the first blank. -/
theorem isBlank_of_mem_takeWhile {text : List Char} {character : Char}
    (inside : character ∈ text.takeWhile fun c => !isBlank c) : isBlank character = false := by
  simpa using List.all_eq_true.mp List.all_takeWhile character inside

/-- What follows the longest run at the start of a text opens with a blank. -/
theorem opensBlank_dropWhile (text : List Char) :
    OpensBlank (text.dropWhile fun c => !isBlank c) := by
  intro next first
  have stopped := List.head?_dropWhile_not (fun c => !isBlank c) text
  rw [first] at stopped
  simpa using stopped

/-- A longest run is all that stands before the next blank. -/
theorem takeWhile_run {run after : List Char}
    (letters : ∀ character ∈ run, isBlank character = false)
    (ends : OpensBlank after) : (run ++ after).takeWhile (fun c => !isBlank c) = run := by
  have whole : ∀ character ∈ run, (!isBlank character) = true := by
    intro character inside
    rw [letters character inside, Bool.not_false]
  rw [List.takeWhile_append_of_pos whole]
  cases after with
  | nil => simp
  | cons first rest =>
    have blank := ends first rfl
    rw [List.takeWhile_cons_of_neg (by simp [blank]), List.append_nil]

/-- What holds of the empty text and is kept by a blank in front and by a longest run in front holds
of every text. -/
theorem byRuns {motive : List Char → Prop} (nil : motive [])
    (blank : ∀ character rest, isBlank character = true → motive rest → motive (character :: rest))
    (run : ∀ run rest, run ≠ [] → (∀ character ∈ run, isBlank character = false) →
      OpensBlank rest → motive rest → motive (run ++ rest)) (text : List Char) : motive text := by
  induction length : text.length using Nat.strongRecOn generalizing text with
  | _ count ih =>
    cases text with
    | nil => exact nil
    | cons character rest =>
      rw [List.length_cons] at length
      by_cases isBlank : isBlank character = true
      · exact blank character rest isBlank (ih rest.length (by omega) rest rfl)
      · -- The run that starts here is not empty, so what follows it is shorter.
        let letters := (character :: rest).takeWhile fun c => !Text.isBlank c
        let later := (character :: rest).dropWhile fun c => !Text.isBlank c
        have split : letters ++ later = character :: rest := List.takeWhile_append_dropWhile
        have starts : letters ≠ [] := by
          have first : letters = character :: rest.takeWhile fun c => !Text.isBlank c :=
            List.takeWhile_cons_of_pos (by simpa using isBlank)
          rw [first]
          exact List.cons_ne_nil _ _
        have shorter : later.length < count := by
          have total := congrArg List.length split
          have some := List.length_pos_iff.mpr starts
          rw [List.length_append, List.length_cons] at total
          omega
        rw [← split]
        exact run letters later starts (fun _ => isBlank_of_mem_takeWhile) (opensBlank_dropWhile _)
          (ih later.length shorter later rfl)

/-- The segments of a text that starts with a longest run. -/
theorem segments_run {run : List Char} (some : run ≠ [])
    (letters : ∀ character ∈ run, isBlank character = false) {after : List Char}
    (ends : OpensBlank after) : segments (run ++ after) = .word run :: segments after := by
  induction run with
  | nil => exact absurd rfl some
  | cons letter run ih =>
    rw [List.forall_mem_cons] at letters
    have first : segments (letter :: run ++ after) =
        consLetter letter (segments (run ++ after)) := by
      rw [List.cons_append, segments, letters.1]
      rfl
    rw [first]
    by_cases last : run = []
    · subst last
      cases after with
      | nil => rfl
      | cons blank rest =>
        have isBlank := ends blank rfl
        rw [List.nil_append, segments, if_pos isBlank]
        rfl
    · rw [ih last letters.2]
      rfl

/-! ## Places -/

/-- A place in a text: one of its characters, and what stands before and behind it. -/
structure Place where
  /-- What stands before the character. -/
  before : List Char
  /-- The character. -/
  character : Char
  /-- What stands behind the character. -/
  behind : List Char

/-- The places of the rest of a text, from left to right, given what stands before it. -/
def placesBehind (before : List Char) : List Char → List Place
  | [] => []
  | character :: rest =>
    ⟨before, character, rest⟩ :: placesBehind (before ++ [character]) rest

/-- The places of a text, from left to right. -/
def places (text : List Char) : List Place :=
  placesBehind [] text

/-- The column behind some characters: one more than there are since the last line feed, or since
the start. -/
def columnBehind (before : List Char) : Nat :=
  (before.reverse.takeWhile (· ≠ '\n')).length + 1

namespace Place

/-- Whether a longest run without blanks starts here. -/
def startsRun (place : Place) : Bool :=
  !isBlank place.character && place.before.getLast?.all isBlank

/-- What stands from here up to the next blank. -/
def run (place : Place) : List Char :=
  (place.character :: place.behind).takeWhile fun character => !isBlank character

/-- The first run that starts behind this place. -/
def nextRun? (place : Place) : Option (List Char) :=
  ((placesBehind (place.before ++ [place.character]) place.behind).find? startsRun).map run

end Place

/-- The places of the rest of a text are the ways to split it before one of its characters. -/
theorem mem_placesBehind {before rest : List Char} {place : Place} :
    place ∈ placesBehind before rest ↔
      ∃ passed, place.before = before ++ passed ∧
        rest = passed ++ place.character :: place.behind := by
  induction rest generalizing before with
  | nil => simp [placesBehind]
  | cons character rest ih =>
    rw [placesBehind, List.mem_cons, ih]
    constructor
    · rintro (rfl | ⟨passed, same, split⟩)
      · exact ⟨[], (List.append_nil before).symm, rfl⟩
      · refine ⟨character :: passed, ?_, ?_⟩
        · rw [same, List.append_assoc]
          rfl
        · rw [split, List.cons_append]
    · rintro ⟨passed, same, split⟩
      cases passed with
      | nil =>
        rw [List.nil_append, List.cons.injEq] at split
        rw [List.append_nil] at same
        exact .inl (by rw [← same, split.1, split.2])
      | cons first passed =>
        rw [List.cons_append, List.cons.injEq] at split
        refine .inr ⟨passed, ?_, split.2⟩
        rw [same, split.1, List.append_assoc]
        rfl

/-- The places of a text are the ways to split it before one of its characters. -/
theorem mem_places {text : List Char} {place : Place} :
    place ∈ places text ↔ text = place.before ++ place.character :: place.behind := by
  unfold places
  rw [mem_placesBehind]
  constructor
  · rintro ⟨passed, same, split⟩
    rw [same, split, List.nil_append]
  · intro split
    exact ⟨place.before, (List.nil_append _).symm, split⟩

/-- Nothing or a blank stands before a place exactly if what stands there closes so. -/
theorem all_getLast?_iff {before : List Char} :
    before.getLast?.all isBlank = true ↔ ClosesBlank before := by
  unfold ClosesBlank
  cases before.getLast? <;> simp

/-- The longest runs without blanks are those that start at the places of a text. -/
theorem isRun_iff {text before run : List Char} :
    IsRun text before run ↔
      ∃ place ∈ places text, place.startsRun = true ∧ place.before = before ∧ place.run = run := by
  simp only [mem_places, Place.startsRun, Bool.and_eq_true, Bool.not_eq_true', all_getLast?_iff]
  constructor
  · rintro ⟨after, rfl, some, letters, opens, ends⟩
    cases run with
    | nil => exact absurd rfl some
    | cons first run =>
      refine ⟨⟨before, first, run ++ after⟩, ?_, ⟨letters first List.mem_cons_self, opens⟩, rfl, ?_⟩
      · rw [List.append_assoc, List.cons_append]
      · exact takeWhile_run letters ends
  · rintro ⟨place, rfl, ⟨letter, opens⟩, rfl, rfl⟩
    refine ⟨(place.character :: place.behind).dropWhile fun c => !isBlank c, ?_, ?_,
      fun _ => isBlank_of_mem_takeWhile, opens, opensBlank_dropWhile _⟩
    · rw [List.append_assoc]
      exact congrArg _ List.takeWhile_append_dropWhile.symm
    · rw [Place.run, List.takeWhile_cons_of_pos (by simp [letter])]
      exact List.cons_ne_nil _ _

/-- The characters of the places are those of the text. -/
theorem map_character_placesBehind (before rest : List Char) :
    (placesBehind before rest).map Place.character = rest := by
  induction rest generalizing before with
  | nil => rfl
  | cons character rest ih => rw [placesBehind, List.map_cons, ih]

/-- The places of a run behind its first one are inside it: no run starts there. -/
theorem exists_placesBehind_run {before run : List Char} (inside : ¬ ClosesBlank before)
    (letters : ∀ character ∈ run, isBlank character = false) (after : List Char) :
    ∃ inner, placesBehind before (run ++ after) = inner ++ placesBehind (before ++ run) after ∧
      ∀ place ∈ inner, isBlank place.character = false ∧ place.startsRun = false := by
  induction run generalizing before with
  | nil => exact ⟨[], by simp, fun _ inside => absurd inside List.not_mem_nil⟩
  | cons letter run ih =>
    rw [List.forall_mem_cons] at letters
    have still : ¬ ClosesBlank (before ++ [letter]) := by
      intro closes
      have blank := closes letter (by simp)
      rw [letters.1] at blank
      cases blank
    obtain ⟨inner, split, silent⟩ := ih still letters.2
    refine ⟨⟨before, letter, run ++ after⟩ :: inner, ?_, ?_⟩
    · rw [List.cons_append, placesBehind, split, List.cons_append, List.append_assoc]
      rfl
    · refine List.forall_mem_cons.mpr ⟨⟨letters.1, ?_⟩, silent⟩
      have shut : before.getLast?.all isBlank = false := by
        rw [← Bool.not_eq_true, all_getLast?_iff]
        exact inside
      rw [Place.startsRun, shut, Bool.and_false]

/-! ## Columns -/

/-- A blank moves the column on as the scanner does. -/
theorem columnBehind_append_singleton (before : List Char) (blank : Char) :
    columnBehind (before ++ [blank]) = Token.columnAfter (columnBehind before) blank := by
  unfold columnBehind Token.columnAfter
  rw [List.reverse_append, List.reverse_singleton, List.singleton_append]
  by_cases lineFeed : blank = '\n'
  · rw [if_pos lineFeed, List.takeWhile_cons_of_neg (by simp [lineFeed])]
    rfl
  · rw [if_neg lineFeed, List.takeWhile_cons_of_pos (by simp [lineFeed]), List.length_cons]

/-- A run moves the column on by its length. -/
theorem columnBehind_append_run (before : List Char) {run : List Char}
    (letters : ∀ character ∈ run, isBlank character = false) :
    columnBehind (before ++ run) = columnBehind before + run.length := by
  have inLine : ∀ character ∈ run.reverse, (decide (character ≠ '\n')) = true := by
    intro character inside
    refine decide_eq_true fun lineFeed => ?_
    have letter := letters character (List.mem_reverse.mp inside)
    rw [lineFeed] at letter
    exact absurd letter (by decide)
  unfold columnBehind
  rw [List.reverse_append, List.takeWhile_append_of_pos inLine, List.length_append,
    List.length_reverse]
  omega

/-! ## Offences -/

/-- The blanks that may stand between words. -/
def layoutCharacters : List Char :=
  [' ', '\t', '\r', '\n', '\x0c', '\x0b']

/-- The blanks of plain layout are the six that are listed. -/
theorem isLayout_iff_mem {character : Char} :
    isLayout character = true ↔ character ∈ layoutCharacters := by
  constructor
  · intro layout
    unfold isLayout at layout
    simp only [Bool.or_eq_true, beq_iff_eq, Bool.and_eq_true, decide_eq_true_eq] at layout
    rcases layout with rfl | ⟨low, high⟩
    · decide
    · have low : 9 ≤ character.toNat := low
      have high : character.toNat ≤ 13 := high
      have cases : character.toNat = 9 ∨ character.toNat = 10 ∨ character.toNat = 11 ∨
          character.toNat = 12 ∨ character.toNat = 13 := by omega
      have same := Char.ofNat_toNat character
      rcases cases with code | code | code | code | code <;>
      · rw [code] at same
        rw [← same]
        decide
  · intro listed
    have all : layoutCharacters.all isLayout = true := by decide
    exact List.all_eq_true.mp all character listed

/-- Whether nothing in a text offends: each blank is one of plain layout, and each longest run
without blanks has a kind. -/
structure Clean (text : List Char) : Prop where
  /-- No blank is refused. -/
  blanks : ∀ character ∈ text, isBlank character = true → character ∈ layoutCharacters
  /-- Every run has a kind. -/
  runs : ∀ before run, IsRun text before run → (Kind.ofWord? (String.ofList run)).isSome = true

namespace Place

/-- Whether a refused blank or a run without a kind starts here. -/
def offends (place : Place) : Bool :=
  if isBlank place.character then !isLayout place.character
  else place.startsRun && (Kind.ofWord? (String.ofList place.run)).isNone

/-- The error of an offence: it names the run itself, or the next run behind a blank. -/
def error (place : Place) : ScanError :=
  if isBlank place.character then
    match place.nextRun? with
    | some run => .invalidWord (String.ofList run)
    | none => .strayBlank
  else .invalidWord (String.ofList place.run)

/-- The token of the run that starts here, if one does and has a kind. -/
def token? (place : Place) : Option Token :=
  if place.startsRun then
    (Kind.ofWord? (String.ofList place.run)).map fun kind =>
      ⟨kind, String.ofList place.run, columnBehind place.before⟩
  else none

end Place

/-- A text is clean exactly if no place offends. -/
theorem clean_iff {text : List Char} :
    Clean text ↔ ∀ place ∈ places text, place.offends = false := by
  constructor
  · intro clean place inside
    unfold Place.offends
    by_cases blank : isBlank place.character = true
    · have within : place.character ∈ text := by
        rw [← map_character_placesBehind [] text]
        exact List.mem_map_of_mem inside
      rw [if_pos blank, isLayout_iff_mem.mpr (clean.blanks _ within blank), Bool.not_true]
    · rw [if_neg blank]
      by_cases starts : place.startsRun = true
      · have known := clean.runs _ _ (isRun_iff.mpr ⟨place, inside, starts, rfl, rfl⟩)
        rw [starts, Bool.true_and]
        simpa using known
      · rw [Bool.not_eq_true] at starts
        rw [starts, Bool.false_and]
  · intro silent
    constructor
    · intro character inside blank
      rw [← map_character_placesBehind [] text] at inside
      obtain ⟨place, within, rfl⟩ := List.mem_map.mp inside
      have quiet := silent place within
      rw [Place.offends, if_pos blank, Bool.not_eq_false'] at quiet
      exact isLayout_iff_mem.mp quiet
    · intro before run isRun
      obtain ⟨place, inside, starts, -, rfl⟩ := isRun_iff.mp isRun
      have quiet := silent place inside
      have letter : ¬ isBlank place.character = true := by
        unfold Place.startsRun at starts
        simp only [Bool.and_eq_true, Bool.not_eq_true'] at starts
        simp [starts.1]
      rw [Place.offends, if_neg letter, starts, Bool.true_and] at quiet
      simpa using quiet

end Text

/-! ## Scanning place by place -/

namespace Token

open Text

/-- The tokens that some places give: one for each run, unless a place offends. -/
def ofPlaces (places : List Place) : Except ScanError (List Token) :=
  match places.find? Place.offends with
  | some place => .error place.error
  | none => .ok (places.filterMap Place.token?)

variable {place : Place} {rest : List Place}

/-- The first place decides the error if it offends. -/
theorem ofPlaces_of_offends (offends : place.offends = true) :
    ofPlaces (place :: rest) = .error place.error := by
  unfold ofPlaces
  rw [List.find?_cons_of_pos offends]

/-- A place where nothing starts is passed over. -/
theorem ofPlaces_of_silent (quiet : place.offends = false) (none : place.token? = none) :
    ofPlaces (place :: rest) = ofPlaces rest := by
  unfold ofPlaces
  rw [List.find?_cons_of_neg (by simp [quiet]), List.filterMap_cons_none none]

/-- A place where a run with a kind starts gives its token. -/
theorem ofPlaces_of_token {token : Token} (quiet : place.offends = false)
    (given : place.token? = some token) :
    ofPlaces (place :: rest) = (ofPlaces rest).map (token :: ·) := by
  unfold ofPlaces
  rw [List.find?_cons_of_neg (by simp [quiet]), List.filterMap_cons_some given]
  cases rest.find? Place.offends <;> rfl

/-- Places inside a run are passed over. -/
theorem ofPlaces_append {inner : List Place}
    (silent : ∀ place ∈ inner, isBlank place.character = false ∧ place.startsRun = false) :
    ofPlaces (inner ++ rest) = ofPlaces rest := by
  induction inner with
  | nil => rfl
  | cons place inner ih =>
    rw [List.forall_mem_cons] at silent
    obtain ⟨letter, within⟩ := silent.1
    have quiet : place.offends = false := by
      rw [Place.offends, letter, within]
      rfl
    have none : place.token? = none := by
      rw [Place.token?, within]
      rfl
    rw [List.cons_append, ofPlaces_of_silent quiet none, ih silent.2]

/-- Whether a run is not cut in two between the two parts of a text. -/
def Aligned (before rest : List Char) : Prop :=
  ClosesBlank before ∨ OpensBlank rest

/-- A blank cuts no run in two. -/
theorem aligned_append_blank {before : List Char} {blank : Char} (isBlank : isBlank blank = true)
    (rest : List Char) : Aligned (before ++ [blank]) rest := by
  refine .inl fun character last => ?_
  rw [List.getLast?_concat, Option.some.injEq] at last
  rw [← last]
  exact isBlank

/-- At the start of a run nothing or a blank stands before it. -/
theorem Aligned.closesBlank {before run after : List Char} (aligned : Aligned before (run ++ after))
    (some : run ≠ []) (letters : ∀ character ∈ run, isBlank character = false) :
    ClosesBlank before := by
  refine aligned.resolve_right fun opens => ?_
  cases run with
  | nil => exact absurd rfl some
  | cons first run =>
    have blank := opens first rfl
    rw [letters first List.mem_cons_self] at blank
    cases blank

/-- The places of a text that starts with a longest run: the first one starts it, and no run starts
before it ends. -/
theorem exists_placesBehind_cons {before run after : List Char} (closes : ClosesBlank before)
    (some : run ≠ []) (letters : ∀ character ∈ run, isBlank character = false)
    (ends : OpensBlank after) :
    ∃ place inner, placesBehind before (run ++ after) =
        place :: (inner ++ placesBehind (before ++ run) after) ∧
      isBlank place.character = false ∧ place.before = before ∧ place.startsRun = true ∧
      place.run = run ∧
      ∀ place ∈ inner, isBlank place.character = false ∧ place.startsRun = false := by
  cases run with
  | nil => exact absurd rfl some
  | cons first run =>
    have letter := letters first List.mem_cons_self
    have within : ¬ ClosesBlank (before ++ [first]) := by
      intro closes
      have blank := closes first (by simp)
      rw [letter] at blank
      cases blank
    obtain ⟨inner, split, silent⟩ :=
      exists_placesBehind_run within (fun c inside => letters c (List.mem_cons_of_mem first inside))
        after
    refine ⟨⟨before, first, run ++ after⟩, inner, ?_, letter, rfl, ?_, ?_, silent⟩
    · rw [List.cons_append, placesBehind, split, List.append_assoc]
      rfl
    · rw [Place.startsRun, all_getLast?_iff.mpr closes, letter]
      rfl
    · exact takeWhile_run letters ends

/-- The first word among the segments is the first run that starts at a place. -/
theorem firstWord?_segments {before rest : List Char} (aligned : Aligned before rest) :
    firstWord? (segments rest) =
      ((placesBehind before rest).find? Place.startsRun).map Place.run := by
  induction rest using byRuns generalizing before with
  | nil => rfl
  | blank character rest isBlank ih =>
    have first : segments (character :: rest) = .blank character :: segments rest := by
      rw [segments, if_pos isBlank]
    have silent : Place.startsRun ⟨before, character, rest⟩ = false := by
      rw [Place.startsRun, isBlank]
      rfl
    rw [first, placesBehind, List.find?_cons_of_neg (by simp [silent])]
    exact ih (aligned_append_blank isBlank rest)
  | run run after some letters ends =>
    obtain ⟨place, inner, split, -, -, starts, same, -⟩ :=
      exists_placesBehind_cons (aligned.closesBlank some letters) some letters ends
    rw [segments_run some letters ends, split, List.find?_cons_of_pos starts, Option.map_some, same]
    rfl

/-- Scanning the segments of a text does what its places say. -/
theorem ofSegments_eq_ofPlaces {before rest : List Char} (aligned : Aligned before rest) :
    ofSegments (columnBehind before) (segments rest) = ofPlaces (placesBehind before rest) := by
  induction rest using byRuns generalizing before with
  | nil => rfl
  | blank character rest isBlank ih =>
    have later := @ih (before ++ [character]) (aligned_append_blank isBlank rest)
    have first : segments (character :: rest) = .blank character :: segments rest := by
      rw [segments, if_pos isBlank]
    rw [first, ofSegments, placesBehind]
    by_cases layout : isLayout character = true
    · have quiet : Place.offends ⟨before, character, rest⟩ = false := by
        rw [Place.offends, isBlank, layout]
        rfl
      have none : Place.token? ⟨before, character, rest⟩ = none := by
        rw [Place.token?, Place.startsRun, isBlank]
        rfl
      rw [if_pos layout, ← columnBehind_append_singleton, later, ofPlaces_of_silent quiet none]
    · have offends : Place.offends ⟨before, character, rest⟩ = true := by
        rw [Bool.not_eq_true] at layout
        rw [Place.offends, isBlank, layout]
        rfl
      rw [if_neg layout, ofPlaces_of_offends offends, blankError,
        firstWord?_segments (aligned_append_blank isBlank rest), Place.error, isBlank]
      rfl
  | run run after some letters ends ih =>
    obtain ⟨place, inner, split, letter, placed, starts, same, silent⟩ :=
      exists_placesBehind_cons (aligned.closesBlank some letters) some letters ends
    have later : ofSegments (columnBehind before + run.length) (segments after) =
        ofPlaces (inner ++ placesBehind (before ++ run) after) := by
      rw [← columnBehind_append_run before letters, ih (.inr ends), ofPlaces_append silent]
    rw [segments_run some letters ends, split, ofSegments, later]
    cases known : Kind.ofWord? (String.ofList run) with
    | none =>
      have offends : place.offends = true := by
        rw [Place.offends, letter, starts, same, known]
        rfl
      rw [ofPlaces_of_offends offends, Place.error, letter, same]
      rfl
    | some kind =>
      have quiet : place.offends = false := by
        rw [Place.offends, letter, starts, same, known]
        rfl
      have given : place.token? = .some ⟨kind, String.ofList run, columnBehind before⟩ := by
        rw [Place.token?, starts, same, known, placed]
        rfl
      rw [ofPlaces_of_token quiet given]
      cases ofPlaces (inner ++ placesBehind (before ++ run) after) <;> rfl

/-- Scanning a text does what its places say. -/
theorem scan_eq_ofPlaces (text : String) : scan text = ofPlaces (places text.toList) := by
  have aligned : Aligned [] text.toList := by
    refine .inl fun character last => ?_
    cases last
  exact ofSegments_eq_ofPlaces aligned

/-- Whether a token is that of the run that starts at a place. -/
structure StandsAt (place : Place) (token : Token) : Prop where
  /-- The word is the run. -/
  lexeme : token.lexeme = String.ofList place.run
  /-- The kind is that of the word. -/
  kind : Kind.ofWord? token.lexeme = some token.kind
  /-- The column is that of the place. -/
  column : token.column = columnBehind place.before

/-- Where no place offends, each run gives one token. -/
theorem forall₂_standsAt {places : List Place} (quiet : ∀ place ∈ places, place.offends = false) :
    List.Forall₂ StandsAt (places.filter Place.startsRun) (places.filterMap Place.token?) := by
  induction places with
  | nil => exact .nil
  | cons place rest ih =>
    rw [List.forall_mem_cons] at quiet
    have later := ih quiet.2
    by_cases starts : place.startsRun = true
    · have letter : isBlank place.character = false := by
        unfold Place.startsRun at starts
        simp only [Bool.and_eq_true, Bool.not_eq_true'] at starts
        exact starts.1
      have known := quiet.1
      rw [Place.offends, letter, starts] at known
      cases named : Kind.ofWord? (String.ofList place.run) with
      | none =>
        rw [named] at known
        cases known
      | some kind =>
        have given : place.token? =
            some ⟨kind, String.ofList place.run, columnBehind place.before⟩ := by
          rw [Place.token?, starts, named]
          rfl
        rw [List.filter_cons_of_pos starts, List.filterMap_cons_some given]
        exact .cons ⟨rfl, named, rfl⟩ later
    · have none : place.token? = none := by
        rw [Place.token?, if_neg starts]
      rw [List.filter_cons_of_neg starts, List.filterMap_cons_none none]
      exact later

end Token

namespace Buffer

open Text

/-- Adding a text is exact and all or nothing: one token for each longest run without blanks, where
it stands, or no token and the error of the leftmost offence. -/
theorem adds_all_runs_or_nothing (buffer : Buffer) (text : String) :
    (Clean text.toList → ∃ tokens, take text buffer = .ok () (buffer ++ tokens) ∧
      List.Forall₂ Token.StandsAt ((places text.toList).filter Place.startsRun) tokens) ∧
    (¬ Clean text.toList → ∃ place, (places text.toList).find? Place.offends = some place ∧
      take text buffer = .error place.error buffer) := by
  have scanned := Token.scan_eq_ofPlaces text
  unfold Token.ofPlaces at scanned
  constructor
  · intro clean
    have quiet := clean_iff.mp clean
    have none : (places text.toList).find? Place.offends = none :=
      List.find?_eq_none.mpr fun place inside => by simp [quiet place inside]
    rw [none] at scanned
    exact ⟨_, take_of_ok scanned buffer, Token.forall₂_standsAt quiet⟩
  · intro unclean
    rw [clean_iff] at unclean
    cases found : (places text.toList).find? Place.offends with
    | none =>
      refine absurd (fun place inside => ?_) unclean
      simpa using List.find?_eq_none.mp found place inside
    | some place =>
      rw [found] at scanned
      exact ⟨place, rfl, take_of_error scanned buffer⟩

/-- A run without a kind comes before a refused blank behind it, and a refused blank at the end has
no word to name. -/
example :
    (Place.error <$> (places "1 2x\u00a0y".toList).find? Place.offends) = some (.invalidWord "2x") ∧
    (Place.error <$> (places "1\u00a0 y 2x".toList).find? Place.offends) = some (.invalidWord "y") ∧
    (Place.error <$> (places "1\n2 \u00a0".toList).find? Place.offends) = some .strayBlank := by
  decide +kernel

end Buffer

end PrefixCalc
