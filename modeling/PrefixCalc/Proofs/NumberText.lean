import PrefixCalc.Proofs.Bits
import PrefixCalc.Proofs.Lexed
import PrefixCalc.Proofs.Positional

/-!
# Numbers and their texts

Every double is written as a word of the language that reads back as the same double,
and so no two values share a text (`Value.text_reads_back`). The word is a literal
since no reserved word is a numeral (`Kind.ofText?_of_mem_reservedWords`), and plain,
so that nothing is dropped or joined before it is read (`Numeral.ofText?_of_plain`).
-/

/-! ## Plain texts -/

namespace PrefixCalc.Text

/-- A text is left as it is when none of its characters are dropped at its ends. -/
theorem trimWhile_of_forall {p : Char → Bool} {text : List Char}
    (none : ∀ character ∈ text, p character = false) : trimWhile p text = text := by
  have front (part : List Char) (inside : ∀ character ∈ part, p character = false) :
      part.dropWhile p = part := by
    cases part with
    | nil => rfl
    | cons first rest => exact List.dropWhile_cons_of_neg (by simp [inside first])
  unfold trimWhile dropEndWhile
  rw [front text none, front text.reverse, List.reverse_reverse]
  intro character inside
  exact none character (List.mem_reverse.mp inside)

end PrefixCalc.Text

namespace PrefixCalc.Double

open Numeral

namespace Numeral

/-- Whether a character stands for itself wherever it occurs in a numeral. -/
def IsPlain (character : Char) : Prop :=
  character.toNat < 0x7F ∧ Text.isLayout character = false ∧ character ≠ '_'

instance (character : Char) : Decidable (IsPlain character) :=
  inferInstanceAs (Decidable (_ ∧ _ ∧ _))

/-- Without low lines there is nothing to drop between digits. -/
theorem joinDigits?_of_not_mem {text : List Char} (none : '_' ∉ text) (before : Char) :
    joinDigits? before text = some text := by
  induction text generalizing before with
  | nil => rfl
  | cons character rest ih =>
    rw [List.mem_cons, not_or] at none
    rw [joinDigits?, ih none.2]
    · rfl
    · intro _ _ same
      exact absurd same.symm none.1
    · intro same
      exact absurd same.symm none.1

/-- A plain text is read as it stands. -/
theorem ofText?_of_plain {text : List Char} (plain : ∀ character ∈ text, IsPlain character) :
    ofText? text = ofPlain? text := by
  have converted : text.mapM plain? = some text := by
    induction text with
    | nil => rfl
    | cons character rest ih =>
      have first : plain? character = some character :=
        if_pos (plain character List.mem_cons_self).1
      have others := ih fun other inside => plain other (List.mem_cons_of_mem _ inside)
      rw [List.mapM_cons, first, others]
      rfl
  have trimmed : Text.trimWhile Text.isLayout text = text :=
    Text.trimWhile_of_forall fun character inside => (plain character inside).2.1
  have joined := joinDigits?_of_not_mem (fun low => (plain '_' low).2.2 rfl) ' '
  unfold ofText?
  rw [converted]
  show (joinDigits? ' ' (Text.trimWhile Text.isLayout text) >>= ofPlain?) = _
  rw [trimmed, joined]
  rfl

/-- What holds of ten characters holds of every digit. -/
theorem of_isDigit (p : Char → Prop) [DecidablePred p]
    (table : "0123456789".toList.all (fun digit => decide (p digit)) = true) {character : Char}
    (digit : character.isDigit = true) : p character := by
  have bounds : 48 ≤ character.toNat ∧ character.toNat ≤ 57 := by
    simpa [Char.isDigit, UInt32.le_iff_toNat_le] using digit
  have code : character.toNat ∈ List.range' 48 10 := by
    rw [List.mem_range'_1]
    omega
  have codes : ∀ number ∈ List.range' 48 10, Char.ofNat number ∈ "0123456789".toList := by decide
  have listed := codes _ code
  rw [Char.ofNat_toNat] at listed
  exact of_decide_eq_true (List.all_eq_true.mp table character listed)

/-- A digit is no sign. -/
theorem splitSign_of_isDigit (negative : Bool) {first : Char} (digit : first.isDigit = true)
    (rest : List Char) :
    splitSign ((if negative then ['-'] else []) ++ first :: rest) = (negative, first :: rest) := by
  have unsigned : first ≠ '-' ∧ first ≠ '+' :=
    of_isDigit (fun other => other ≠ '-' ∧ other ≠ '+') (by decide) digit
  cases negative with
  | true => rfl
  | false =>
    show splitSign (first :: rest) = (false, first :: rest)
    rw [splitSign]
    · intro _ same
      exact absurd (List.cons.inj same).1 unsigned.1
    · intro _ same
      exact absurd (List.cons.inj same).1 unsigned.2

/-- What starts with a digit is read as a decimal. -/
theorem ofPlain?_of_isDigit (negative : Bool) {first : Char} (digit : first.isDigit = true)
    (rest : List Char) :
    ofPlain? ((if negative then ['-'] else []) ++ first :: rest) =
      (decimal? (first :: rest)).map (.decimal negative ·) := by
  have differs (word : String) (head : some first.toLower ≠ word.toList.head?) :
      (String.ofList ((first :: rest).map Char.toLower) == word) = false := by
    rw [beq_eq_false_iff_ne]
    intro same
    rw [← same, String.toList_ofList] at head
    exact head rfl
  have inf := differs "inf" (of_isDigit (fun other => some other.toLower ≠ _) (by decide) digit)
  have infinity :=
    differs "infinity" (of_isDigit (fun other => some other.toLower ≠ _) (by decide) digit)
  have nan := differs "nan" (of_isDigit (fun other => some other.toLower ≠ _) (by decide) digit)
  unfold ofPlain?
  rw [splitSign_of_isDigit negative digit rest]
  dsimp only
  rw [inf, infinity, nan]
  rfl

end Numeral

/-- A written decimal is a digit and what follows, all of it plain. -/
theorem Decimal.exists_write_eq_cons (decimal : Decimal) :
    ∃ first rest, decimal.write = first :: rest ∧ first.isDigit = true ∧
      ∀ character ∈ decimal.write, IsPlain character := by
  have whole := decimal.allDigits_wholeDigits
  have plain : ∀ character ∈ decimal.write, IsPlain character := by
    intro character inside
    rw [write_eq, writeFraction_eq, List.mem_append] at inside
    rcases inside with before | behind
    · exact of_isDigit IsPlain (by decide) (whole character before)
    · split at behind
      · cases behind
      · rcases List.mem_cons.mp behind with point | digit
        · rw [point]
          decide
        · exact of_isDigit IsPlain (by decide) (decimal.allDigits_fractionDigits.kept character digit)
  cases shape : decimal.wholeDigits with
  | nil => exact absurd shape decimal.wholeDigits_ne_nil
  | cons first rest =>
    refine ⟨first, rest ++ writeFraction decimal.fractionDigits, ?_, ?_, plain⟩
    · rw [write_eq, shape]
      rfl
    · exact whole first (shape ▸ List.mem_cons_self)

/-! ## The text of a double -/

/-- A NaN, an infinity and a finite double are written in their own ways. -/
theorem write_cases (x : Float) :
    x = nan ∧ write x = "NaN" ∨
    rank x = infinityRank ∧ write x = (if isNegative x then "-inf" else "inf") ∨
    rank x < infinityRank ∧
      (write x).toList = (if isNegative x then ['-'] else []) ++ (shortest (rank x)).write := by
  unfold write
  by_cases notNumber : x.isNaN = true
  · rw [if_pos notNumber]
    exact .inl ⟨eq_nan_of_isNaN notNumber, rfl⟩
  · rw [if_neg notNumber]
    rw [isNaN_iff] at notNumber
    unfold writeMagnitude
    by_cases finite : rank x < infinityRank
    · rw [if_pos finite, String.toList_ofList]
      exact .inr (.inr ⟨finite, rfl⟩)
    · rw [if_neg finite]
      refine .inr (.inl ⟨by omega, ?_⟩)
      cases isNegative x with
      | true => rfl
      | false => rfl

/-- The text of a finite double is a number with all its places. -/
theorem isPositional_write {x : Float} (finite : isFinite x = true) :
    IsPositional (write x).toList := by
  have below : rank x < infinityRank := of_decide_eq_true finite
  rcases write_cases x with ⟨isNaN, -⟩ | ⟨infinite, -⟩ | ⟨-, written⟩
  · rw [isNaN] at below
    exact absurd below (by decide +kernel)
  · omega
  · refine ⟨if isNegative x then ['-'] else [], (shortest (rank x)).wholeDigits,
      writeFraction (shortest (rank x)).fractionDigits, ?_, ?_, ?_, ?_⟩
    · rw [written, Decimal.write_eq, List.append_assoc]
    · cases isNegative x with
      | true => exact .inr rfl
      | false => exact .inl rfl
    · exact Decimal.isWhole_wholeDigits (shortest_tidy below)
    · exact isFraction_writeFraction (Decimal.allDigits_fractionDigits _)

/-- The text of a double is plain. -/
theorem isPlain_of_mem_write {x : Float} {character : Char}
    (inside : character ∈ (write x).toList) : IsPlain character := by
  have word (text : String) (table : text.toList.all (fun letter => decide (IsPlain letter)) = true)
      (written : write x = text) : IsPlain character := by
    rw [written] at inside
    exact of_decide_eq_true (List.all_eq_true.mp table character inside)
  rcases write_cases x with ⟨-, written⟩ | ⟨-, written⟩ | ⟨-, written⟩
  · exact word "NaN" (by decide) written
  · cases sign : isNegative x with
    | true => exact word "-inf" (by decide) (by rw [written, sign]; rfl)
    | false => exact word "inf" (by decide) (by rw [written, sign]; rfl)
  · obtain ⟨-, -, -, -, allPlain⟩ := (shortest (rank x)).exists_write_eq_cons
    rw [written, List.mem_append] at inside
    rcases inside with sign | magnitude
    · have minus : character = '-' := by
        cases negative : isNegative x with
        | true => simpa [negative] using sign
        | false => simp [negative] at sign
      rw [minus]
      decide
    · exact allPlain character magnitude

/-- A double's text has no low lines and is read as the double. -/
theorem ofText?_write (x : Float) :
    '_' ∉ (write x).toList ∧
      ∃ numeral, ofText? (write x).toList = some numeral ∧ numeral.value = x := by
  rcases write_cases x with ⟨isNaN, written⟩ | ⟨infinite, written⟩ | ⟨finite, written⟩
  · rw [written]
    exact ⟨by decide, .nan, by decide +kernel, isNaN.symm⟩
  · have value : (Numeral.infinite (isNegative x)).value = x := by
      rw [Numeral.value, ← infinite, ofRank_rank]
    rw [written]
    cases sign : isNegative x with
    | true => exact ⟨by decide, .infinite true, by decide +kernel, sign ▸ value⟩
    | false => exact ⟨by decide, .infinite false, by decide +kernel, sign ▸ value⟩
  · obtain ⟨first, rest, shape, digit, -⟩ := (shortest (rank x)).exists_write_eq_cons
    have plain : ∀ character ∈ (write x).toList, IsPlain character :=
      fun character => isPlain_of_mem_write
    obtain ⟨read, spelled, rounded⟩ := (shortest (rank x)).decimal?_write
    refine ⟨fun low => (plain '_' low).2.2 rfl, .decimal (isNegative x) read, ?_, ?_⟩
    · rw [ofText?_of_plain plain, written, shape, ofPlain?_of_isDigit _ digit, ← shape, spelled]
      rfl
    · rw [Numeral.value, rounded, nearestRank_shortest finite, ofRank_rank]

end PrefixCalc.Double

namespace PrefixCalc

namespace Kind

/-- The text of a number is a literal. -/
theorem ofWord?_write (x : Float) : ofWord? (Double.write x) = some .literal := by
  obtain ⟨plain, numeral, read, -⟩ := Double.ofText?_write x
  have free : ofReserved? (Double.write x) = none := by
    cases found : ofReserved? (Double.write x) with
    | none => rfl
    | some kind =>
      have unreadable := ofText?_of_mem_reservedWords _ (mem_reservedWords found)
      rw [read] at unreadable
      cases unreadable
  have isNumeral : isNumeral (Double.write x) = true := by
    unfold Kind.isNumeral
    rw [read, Option.isSome_some, Bool.and_true, Bool.not_eq_true', List.contains_eq_mem,
      decide_eq_false_iff_not]
    exact plain
  unfold ofWord?
  rw [free]
  dsimp only
  rw [if_pos isNumeral]

end Kind

namespace Value

/-- The text of a value is read as the value. -/
theorem literalValue?_text (value : Value) : Parser.literalValue? value.text = some value := by
  cases value with
  | number x =>
    obtain ⟨-, numeral, read, same⟩ := Double.ofText?_write x
    have literal := Parser.literalValue?_of_numeral read
    rw [same] at literal
    exact literal
  | boolean p =>
    cases p with
    | true => rfl
    | false => rfl

/-- Whether two values are of one kind and the same bit for bit; NaNs are the same. -/
def Identical : Value → Value → Prop
  | .number x, .number y => x.toBits = y.toBits ∨ x.isNaN = true ∧ y.isNaN = true
  | .boolean p, .boolean q => p = q
  | _, _ => False

/-- Values are identical only to themselves. -/
theorem identical_iff_eq (left right : Value) : left.Identical right ↔ left = right := by
  cases left with
  | number x =>
    cases right with
    | number y =>
      constructor
      · intro identical
        rcases identical with bits | notNumbers
        · rw [Double.eq_of_toBits_eq bits]
        · rw [Double.eq_nan_of_isNaN notNumbers.1, Double.eq_nan_of_isNaN notNumbers.2]
      · intro same
        rw [Value.number.inj same]
        exact .inl rfl
    | boolean q => exact ⟨False.elim, fun same => by cases same⟩
  | boolean p =>
    cases right with
    | number y => exact ⟨False.elim, fun same => by cases same⟩
    | boolean q => exact ⟨congrArg Value.boolean, Value.boolean.inj⟩

/-- Values with one text are identical. -/
theorem identical_of_text_eq {left right : Value} (same : left.text = right.text) :
    left.Identical right := by
  have read := literalValue?_text left
  rw [same, literalValue?_text right] at read
  exact (identical_iff_eq left right).mpr (Option.some.inj read).symm

/-- The text of every number is a literal that is parsed as the number, bit for bit; that of a
finite number has all its places and no exponent; and values with one text are identical. -/
theorem text_reads_back :
    (∀ x : Float, Kind.ofWord? (Double.write x) = some .literal ∧
      ∀ buffer, Parser.literal (Double.write x) buffer = .ok (.literal (.number x)) buffer) ∧
    (∀ x : Float, Double.isFinite x = true → Double.IsPositional (Double.write x).toList) ∧
    ∀ left right : Value, left.text = right.text ↔ left.Identical right := by
  refine ⟨fun x => ⟨Kind.ofWord?_write x, fun buffer => ?_⟩, fun x => Double.isPositional_write, ?_⟩
  · have read := literalValue?_text (.number x)
    unfold Parser.literal
    rw [show Parser.literalValue? (Double.write x) = some (.number x) from read]
    rfl
  · intro left right
    refine ⟨identical_of_text_eq, fun identical => ?_⟩
    rw [(identical_iff_eq left right).mp identical]

example : text (.number (Double.ofRank true 0)) = "-0" := by decide +kernel

end Value

end PrefixCalc
