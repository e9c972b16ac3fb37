import Mathlib.Algebra.Group.Nat.Defs
import Mathlib.Data.List.DropRight
import PrefixCalc.Double.Numeral
import PrefixCalc.Double.Written
import PrefixCalc.Proofs.Rounding

/-!
# Decimals with all their places

A decimal is written with its digits before the point and, without the zeros that end
them, those behind it. `IsPositional` is the form of such texts. Leaving out zeros
shifts a decimal and keeps its value, so a written decimal is read as one with the
same nearest rank (`Decimal.decimal?_write`).
-/

namespace PrefixCalc.Double

open Numeral

/-! ## The form of a finite number -/

/-- Whether all characters of a text are digits. -/
def AllDigits (text : List Char) : Prop :=
  ∀ character ∈ text, character.isDigit = true

/-- Whether a character is a digit other than zero. -/
def IsCounting (character : Char) : Prop :=
  character.isDigit = true ∧ character ≠ '0'

/-- Whether a text is a zero alone, or digits of which the first is not zero. -/
def IsWhole (text : List Char) : Prop :=
  text = ['0'] ∨ ∃ first rest, text = first :: rest ∧ IsCounting first ∧ AllDigits rest

/-- Whether a text is empty, or a point and digits of which the last is not zero. -/
def IsFraction (text : List Char) : Prop :=
  text = [] ∨ ∃ digits last, text = '.' :: (digits ++ [last]) ∧ AllDigits digits ∧ IsCounting last

/-- Whether a text is a number with all its places: a minus, if any, the digits before the point
and those behind it, if any, without needless zeros and without an exponent. -/
def IsPositional (text : List Char) : Prop :=
  ∃ sign whole fraction, text = sign ++ whole ++ fraction ∧ (sign = [] ∨ sign = ['-']) ∧
    IsWhole whole ∧ IsFraction fraction

/-- Texts of digits, one behind the other, are a text of digits. -/
theorem AllDigits.append {first second : List Char} (left : AllDigits first)
    (right : AllDigits second) : AllDigits (first ++ second) := by
  intro character inside
  rcases List.mem_append.mp inside with early | late
  · exact left character early
  · exact right character late

/-- Zeros are digits. -/
theorem allDigits_replicate (zeros : Nat) : AllDigits (List.replicate zeros '0') := by
  intro character inside
  rw [List.eq_of_mem_replicate inside]
  decide

/-- The digits of a number are digits. -/
theorem allDigits_toDigits (number : Nat) : AllDigits (Nat.toDigits 10 number) := by
  intro character inside
  exact Nat.isDigit_of_mem_toDigits (by decide) (by decide) inside

/-- A text of digits is taken whole as the digits in front. -/
theorem AllDigits.takeWhile_append {digits : List Char} (allDigits : AllDigits digits)
    (rest : List Char) (stops : rest.head?.all (fun character => !character.isDigit) = true) :
    (digits ++ rest).takeWhile Char.isDigit = digits ∧
      (digits ++ rest).dropWhile Char.isDigit = rest := by
  rw [List.takeWhile_append_of_pos allDigits, List.dropWhile_append_of_pos allDigits]
  cases rest with
  | nil => exact ⟨List.append_nil _, rfl⟩
  | cons character rest =>
    have other : character.isDigit = false := by simpa using stops
    rw [List.takeWhile_cons_of_neg (by simp [other]), List.dropWhile_cons_of_neg (by simp [other])]
    exact ⟨List.append_nil _, rfl⟩

/-- A number above zero does not start with a zero. -/
theorem exists_toDigits_cons {number : Nat} (positive : 0 < number) :
    ∃ first rest, Nat.toDigits 10 number = first :: rest ∧ IsCounting first ∧ AllDigits rest := by
  induction number using Nat.strongRecOn with
  | ind number ih =>
    by_cases small : number < 10
    · refine ⟨number.digitChar, [], Nat.toDigits_of_lt_base small, ⟨?_, ?_⟩, ?_⟩
      · rw [Nat.isDigit_digitChar]
        exact decide_eq_true small
      · rw [ne_eq, Nat.digitChar_eq_zero]
        omega
      · intro character inside
        cases inside
    · have shorter : number / 10 < number := by omega
      have left : 0 < number / 10 := by omega
      obtain ⟨first, rest, digits, counting, allDigits⟩ := ih (number / 10) shorter left
      have step := Nat.toDigits_of_base_le (by decide : 1 < 10) (Nat.le_of_not_lt small)
      have whole := allDigits_toDigits number
      rw [step, digits] at whole
      refine ⟨first, rest ++ [(number % 10).digitChar], by rw [step, digits]; rfl, counting, ?_⟩
      intro character inside
      exact whole character (List.mem_cons_of_mem _ inside)

/-! ## Fractions -/

/-- The digits of a fraction that are written: those up to the last that is not zero. -/
def kept (digits : List Char) : List Char :=
  digits.rdropWhile (· == '0')

/-- A fraction is written by the digits kept of it. -/
theorem writeFraction_eq (digits : List Char) :
    writeFraction digits = if kept digits = [] then [] else '.' :: kept digits := by
  have same : (digits.reverse.dropWhile (· == '0')).reverse = kept digits := rfl
  unfold writeFraction
  rw [same]
  cases kept digits with
  | nil => rfl
  | cons first rest => rfl

/-- Behind the digits that are kept stand zeros. -/
theorem exists_eq_kept_append (digits : List Char) :
    ∃ zeros, digits = kept digits ++ List.replicate zeros '0' := by
  unfold kept
  induction digits using List.reverseRecOn with
  | nil => exact ⟨0, rfl⟩
  | append_singleton digits last ih =>
    by_cases zero : (last == '0') = true
    · obtain ⟨zeros, split⟩ := ih
      refine ⟨zeros + 1, ?_⟩
      rw [List.rdropWhile_concat_pos (· == '0') digits last zero, List.replicate_succ',
        ← List.append_assoc, ← split, beq_iff_eq.mp zero]
    · refine ⟨0, ?_⟩
      rw [List.rdropWhile_concat_neg (· == '0') digits last zero]
      exact (List.append_nil _).symm

/-- What is kept of digits are digits. -/
theorem AllDigits.kept {digits : List Char} (allDigits : AllDigits digits) :
    AllDigits (kept digits) := by
  intro character inside
  exact allDigits character ((List.rdropWhile_prefix _ _).mem inside)

/-- The last digit kept is not zero. -/
theorem isFraction_writeFraction {digits : List Char} (allDigits : AllDigits digits) :
    IsFraction (writeFraction digits) := by
  rw [writeFraction_eq]
  by_cases none : kept digits = []
  · rw [if_pos none]
    exact .inl rfl
  · rw [if_neg none]
    have split := List.dropLast_append_getLast none
    have last := List.rdropWhile_last_not (· == '0') digits none
    have inside := List.getLast_mem none
    refine .inr ⟨(kept digits).dropLast, (kept digits).getLast none, by rw [split], ?_, ?_, ?_⟩
    · intro character early
      exact allDigits.kept character (List.dropLast_subset _ early)
    · exact allDigits.kept _ inside
    · intro zero
      exact last (beq_iff_eq.mpr zero)

/-! ## Reading what was written -/

/-- Zeros behind digits multiply by ten. -/
theorem digitsValue_append_replicate (digits : List Char) (zeros : Nat) :
    digitsValue (digits ++ List.replicate zeros '0') = digitsValue digits * 10 ^ zeros := by
  unfold digitsValue
  rw [Nat.ofDigitChars_append, Nat.ofDigitChars_replicate_zero, Nat.mul_comm]

/-- Zeros in front of digits do not count. -/
theorem digitsValue_replicate_append (zeros : Nat) (digits : List Char) :
    digitsValue (List.replicate zeros '0' ++ digits) = digitsValue digits := by
  unfold digitsValue
  rw [Nat.ofDigitChars_append, Nat.ofDigitChars_replicate_zero, Nat.mul_zero]

/-- Digits in front, and a fraction that ends the text, are read as one number. -/
theorem decimal?_of_split {text whole fraction : List Char}
    (front : text.takeWhile Char.isDigit = whole)
    (behind : splitFraction (text.dropWhile Char.isDigit) = (fraction, [])) (some : whole ≠ []) :
    decimal? text = .some ⟨digitsValue (whole ++ fraction), -(fraction.length : Int)⟩ := by
  have digits : (whole ++ fraction).isEmpty = false := by
    rw [List.isEmpty_eq_false_iff]
    exact List.append_ne_nil_of_left_ne_nil some fraction
  unfold decimal?
  rw [front, behind]
  dsimp only
  rw [digits, if_neg Bool.false_ne_true, exponent?, Option.map_some, Int.zero_sub]

/-- Digits before and behind the point are read as one number, with the places behind the point
that are written. -/
theorem decimal?_append_writeFraction {whole digits : List Char} (some : whole ≠ [])
    (wholeDigits : AllDigits whole) (fractionDigits : AllDigits digits) :
    decimal? (whole ++ writeFraction digits) =
      .some ⟨digitsValue (whole ++ kept digits), -((kept digits).length : Int)⟩ := by
  rw [writeFraction_eq]
  by_cases none : kept digits = []
  · rw [if_pos none, none]
    have front := wholeDigits.takeWhile_append [] rfl
    apply decimal?_of_split front.1 _ some
    rw [front.2]
    rfl
  · rw [if_neg none]
    have front := wholeDigits.takeWhile_append ('.' :: kept digits) rfl
    have behind := fractionDigits.kept.takeWhile_append [] rfl
    rw [List.append_nil] at behind
    apply decimal?_of_split front.1 _ some
    rw [front.2, splitFraction, behind.1, behind.2]

namespace Decimal

/-- The digits that are written before the point. -/
def wholeDigits (decimal : Decimal) : List Char :=
  let digits := Nat.toDigits 10 decimal.digits
  let places := (-decimal.exponent).toNat
  if places < digits.length then
    digits.take (digits.length - places) ++ List.replicate decimal.exponent.toNat '0'
  else ['0']

/-- The digits behind the point, with the zeros that are not written. -/
def fractionDigits (decimal : Decimal) : List Char :=
  let digits := Nat.toDigits 10 decimal.digits
  let places := (-decimal.exponent).toNat
  if places < digits.length then digits.drop (digits.length - places)
  else List.replicate (places - digits.length) '0' ++ digits

/-- A decimal is written by its digits before and behind the point. -/
theorem write_eq (decimal : Decimal) :
    decimal.write = decimal.wholeDigits ++ writeFraction decimal.fractionDigits := by
  unfold write wholeDigits fractionDigits
  dsimp only
  by_cases short : (-decimal.exponent).toNat < (Nat.toDigits 10 decimal.digits).length
  · rw [if_pos short, if_pos short, if_pos short]
  · rw [if_neg short, if_neg short, if_neg short]
    rfl

/-- Before the point stand digits. -/
theorem allDigits_wholeDigits (decimal : Decimal) : AllDigits decimal.wholeDigits := by
  have allDigits := allDigits_toDigits decimal.digits
  unfold wholeDigits
  dsimp only
  split
  · apply AllDigits.append
    · intro character inside
      exact allDigits character (List.mem_of_mem_take inside)
    · exact allDigits_replicate _
  · exact allDigits_replicate 1

/-- Behind the point stand digits. -/
theorem allDigits_fractionDigits (decimal : Decimal) : AllDigits decimal.fractionDigits := by
  have allDigits := allDigits_toDigits decimal.digits
  unfold fractionDigits
  dsimp only
  split
  · intro character inside
    exact allDigits character (List.mem_of_mem_drop inside)
  · exact (allDigits_replicate _).append allDigits

/-- There are as many digits behind the point as the exponent says. -/
theorem length_fractionDigits (decimal : Decimal) :
    decimal.fractionDigits.length = (-decimal.exponent).toNat := by
  unfold fractionDigits
  dsimp only
  split
  · rw [List.length_drop]
    omega
  · rw [List.length_append, List.length_replicate]
    omega

/-- The digits before and behind the point spell the digits of the decimal, and zeros up to the
point. -/
theorem digitsValue_wholeDigits_append (decimal : Decimal) :
    digitsValue (decimal.wholeDigits ++ decimal.fractionDigits) =
      decimal.digits * 10 ^ decimal.exponent.toNat := by
  have spelled : digitsValue (Nat.toDigits 10 decimal.digits) = decimal.digits :=
    Nat.ofDigitChars_ten_toDigits
  have nonempty : 0 < (Nat.toDigits 10 decimal.digits).length :=
    List.length_pos_of_ne_nil Nat.toDigits_ne_nil
  unfold wholeDigits fractionDigits
  dsimp only
  by_cases short : (-decimal.exponent).toNat < (Nat.toDigits 10 decimal.digits).length
  · rw [if_pos short, if_pos short]
    by_cases negative : decimal.exponent < 0
    · have none : decimal.exponent.toNat = 0 := by omega
      rw [none, List.replicate_zero, List.append_nil, List.take_append_drop, spelled, Nat.pow_zero,
        Nat.mul_one]
    · have none : (-decimal.exponent).toNat = 0 := by omega
      rw [none, Nat.sub_zero, List.take_length, List.drop_length, List.append_nil,
        digitsValue_append_replicate, spelled]
  · rw [if_neg short, if_neg short]
    have none : decimal.exponent.toNat = 0 := by omega
    rw [show ['0'] = List.replicate 1 '0' from rfl, digitsValue_replicate_append,
      digitsValue_replicate_append, spelled, none, Nat.pow_zero, Nat.mul_one]

/-- The digits before the point are never missing. -/
theorem wholeDigits_ne_nil (decimal : Decimal) : decimal.wholeDigits ≠ [] := by
  unfold wholeDigits
  dsimp only
  split
  · intro none
    have lengths := congrArg List.length none
    rw [List.length_append, List.length_take, List.length_nil] at lengths
    omega
  · intro none
    cases none

/-- A written decimal is read as a decimal with the same nearest rank. -/
theorem decimal?_write (decimal : Decimal) :
    ∃ read, decimal? decimal.write = some read ∧ read.nearestRank = decimal.nearestRank := by
  obtain ⟨zeros, split⟩ := exists_eq_kept_append decimal.fractionDigits
  have value := decimal.digitsValue_wholeDigits_append
  have length := decimal.length_fractionDigits
  rw [split] at value length
  rw [← List.append_assoc, digitsValue_append_replicate] at value
  rw [List.length_append, List.length_replicate] at length
  refine ⟨_, decimal.write_eq ▸ decimal?_append_writeFraction decimal.wholeDigits_ne_nil
    decimal.allDigits_wholeDigits decimal.allDigits_fractionDigits, ?_⟩
  -- Both are shifted to the places that the digits behind the point fill.
  rw [← nearestRank_shift _ zeros, ← nearestRank_shift decimal decimal.exponent.toNat]
  have exponents : -((kept decimal.fractionDigits).length : Int) - zeros =
      decimal.exponent - decimal.exponent.toNat := by omega
  unfold shift
  rw [value, exponents]

/-- The digits before the point have no needless zeros, unless a zero is written with zeros. -/
theorem isWhole_wholeDigits {decimal : Decimal}
    (tidy : 0 < decimal.digits ∨ decimal.exponent ≤ 0) : IsWhole decimal.wholeDigits := by
  unfold wholeDigits
  dsimp only
  by_cases short : (-decimal.exponent).toNat < (Nat.toDigits 10 decimal.digits).length
  · rw [if_pos short]
    by_cases positive : 0 < decimal.digits
    · obtain ⟨first, rest, digits, counting, allDigits⟩ := exists_toDigits_cons positive
      rw [digits] at short ⊢
      have some : (first :: rest).length - (-decimal.exponent).toNat =
          rest.length - (-decimal.exponent).toNat + 1 := by
        rw [List.length_cons] at short ⊢
        omega
      rw [some, List.take_succ_cons, List.cons_append]
      refine .inr ⟨first, _, rfl, counting, AllDigits.append ?_ (allDigits_replicate _)⟩
      intro character inside
      exact allDigits character (List.mem_of_mem_take inside)
    · have zero : decimal.digits = 0 := by omega
      have level : decimal.exponent = 0 := by
        rw [zero, Nat.toDigits_zero, List.length_singleton] at short
        omega
      rw [zero, level, Nat.toDigits_zero]
      exact .inl rfl
  · rw [if_neg short]
    exact .inl rfl

end Decimal

/-- The decimal found for a finite rank is no zero with zeros before the point. -/
theorem shortest_tidy {rank : Nat} (finite : rank < infinityRank) :
    0 < (shortest rank).digits ∨ (shortest rank).exponent ≤ 0 := by
  by_cases zero : (shortest rank).digits = 0
  · have lowest : (shortest rank).nearestRank = 0 := by
      unfold Decimal.nearestRank
      rw [if_pos zero]
    rw [nearestRank_shortest finite] at lowest
    rw [lowest]
    exact .inr (by decide +kernel)
  · exact .inl (Nat.pos_of_ne_zero zero)

end PrefixCalc.Double
