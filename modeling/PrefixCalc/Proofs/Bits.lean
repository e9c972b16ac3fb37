import Mathlib.Algebra.Group.Nat.Defs
import PrefixCalc.Double.Rank

/-!
# Doubles and their bits

A double is its 64 bits, where all NaNs have the same ones. So taking a double apart
into sign and rank and putting them together again gives the double back
(`ofRank_rank`), and the rank alone tells NaNs and infinities from the finite doubles
(`isNaN_iff`).
-/

namespace PrefixCalc.Double

open Float.Model (Format UnpackedFloat)
open Float.Model.UnpackedFloat

variable {bits : BitVec Format.binary64.numBits}

/-! ## The fields of the bits -/

/-- The sign bit stands first. -/
theorem toNat_unpackSign (bits : BitVec Format.binary64.numBits) :
    (unpackSign bits).toNat = bits.toNat / 2 ^ 63 := by
  have bound : bits.toNat < 2 ^ 64 := bits.isLt
  show bits.toNat >>> 63 % 2 = bits.toNat / 2 ^ 63
  rw [Nat.shiftRight_eq_div_pow]
  omega

/-- The exponent field stands behind the sign bit. -/
theorem toNat_unpackExponent (bits : BitVec Format.binary64.numBits) :
    (unpackExponent bits).toNat = bits.toNat / 2 ^ 52 % 2 ^ 11 := by
  show bits.toNat >>> 52 % 2 ^ 11 = bits.toNat / 2 ^ 52 % 2 ^ 11
  rw [Nat.shiftRight_eq_div_pow]

/-- The mantissa field stands last. -/
theorem toNat_unpackMantissa (bits : BitVec Format.binary64.numBits) :
    (unpackMantissa bits).toNat = bits.toNat % 2 ^ 52 := by
  show bits.toNat >>> 0 % 2 ^ 52 = bits.toNat % 2 ^ 52
  rw [Nat.shiftRight_zero]

/-- A sign is its bit. -/
theorem toBitVec_ofBitVec (sign : BitVec 1) : (Sign.ofBitVec sign).toBitVec = sign := by
  revert sign
  decide

/-- Bits before other bits count for more. -/
theorem toNat_append_eq {high low : Nat} (first : BitVec high) (second : BitVec low) :
    (first ++ second).toNat = first.toNat * 2 ^ low + second.toNat := by
  rw [BitVec.toNat_append, ← Nat.shiftLeft_add_eq_or_of_lt second.isLt, Nat.shiftLeft_eq]

/-- The fields of some bits, put side by side, are the bits. -/
theorem packComponents_fields (bits : BitVec Format.binary64.numBits) :
    packComponents Format.binary64 (Sign.ofBitVec (unpackSign bits)) (unpackExponent bits)
      (unpackMantissa bits) = bits := by
  have sign := toNat_unpackSign bits
  have exponent := toNat_unpackExponent bits
  have mantissa := toNat_unpackMantissa bits
  have high := toNat_append_eq (unpackSign bits) (unpackExponent bits)
  have fields := toNat_append_eq (unpackSign bits ++ unpackExponent bits) (unpackMantissa bits)
  rw [high, sign, exponent, mantissa] at fields
  have whole : (bits.toNat / 2 ^ 63 * 2 ^ 11 + bits.toNat / 2 ^ 52 % 2 ^ 11) * 2 ^ 52 +
      bits.toNat % 2 ^ 52 = bits.toNat := by omega
  unfold packComponents
  rw [toBitVec_ofBitVec]
  apply BitVec.eq_of_toNat_eq
  exact fields.trans whole

/-- Fields put side by side are the bits they come from. -/
theorem packComponents_of_fields {exponent : BitVec 11} {mantissa : BitVec 52}
    (exponentField : unpackExponent bits = exponent)
    (mantissaField : unpackMantissa bits = mantissa) :
    packComponents Format.binary64 (Sign.ofBitVec (unpackSign bits)) exponent mantissa = bits := by
  subst exponentField mantissaField
  exact packComponents_fields bits

/-! ## Packing what was unpacked -/

/-- The bits of a subnormal double are those of its mantissa. -/
theorem pack_subnormal (exponentField : unpackExponent bits = 0#11)
    (positive : 0 < (unpackMantissa bits).toNat) :
    pack Format.binary64 (.finite (Sign.ofBitVec (unpackSign bits)) (unpackMantissa bits).toNat
      (((unpackExponent bits).toNat : Int) - (1023 + 52) + 1) positive) = bits := by
  have bound : (unpackMantissa bits).toNat < 2 ^ 52 := (unpackMantissa bits).isLt
  have biased : (((unpackExponent bits).toNat : Int) - (1023 + 52) + 1 + 1023 + 52).toNat = 1 := by
    rw [exponentField]
    rfl
  have short : ¬ (unpackMantissa bits).toNat.log2 + 1 = 53 := by
    have below := (Nat.log2_lt (Nat.ne_of_gt positive)).mpr bound
    omega
  show (if 2 ^ 11 ≤ (((unpackExponent bits).toNat : Int) - (1023 + 52) + 1 + 1023 + 52).toNat + 1
    then _ else if (unpackMantissa bits).toNat.log2 + 1 = 53 then _ else _) = bits
  rw [biased, if_neg (by decide), if_neg short]
  refine packComponents_of_fields exponentField ?_
  rw [BitVec.ofNat_toNat, BitVec.setWidth_eq]

/-- The leading bit of a normal double stands before its mantissa. -/
theorem toNat_one_append (mantissa : BitVec 52) :
    (1#1 ++ mantissa).toNat = 2 ^ 52 + mantissa.toNat := by
  rw [toNat_append_eq]
  rfl

/-- The bits of a normal double are those of its exponent and its mantissa. -/
theorem pack_normal (small : (unpackExponent bits).toNat < 2047)
    (positive : 0 < (1#1 ++ unpackMantissa bits).toNat) :
    pack Format.binary64 (.finite (Sign.ofBitVec (unpackSign bits))
      (1#1 ++ unpackMantissa bits).toNat (((unpackExponent bits).toNat : Int) - (1023 + 52))
      positive) = bits := by
  have bound : (unpackMantissa bits).toNat < 2 ^ 52 := (unpackMantissa bits).isLt
  have value := toNat_one_append (unpackMantissa bits)
  have biased : (((unpackExponent bits).toNat : Int) - (1023 + 52) + 1023 + 52).toNat =
      (unpackExponent bits).toNat := by omega
  have long : (1#1 ++ unpackMantissa bits).toNat.log2 + 1 = 53 := by
    have exact : (1#1 ++ unpackMantissa bits).toNat.log2 = 52 :=
      (Nat.log2_eq_iff (Nat.ne_of_gt positive)).mpr (by omega)
    omega
  show (if 2 ^ 11 ≤ (((unpackExponent bits).toNat : Int) - (1023 + 52) + 1023 + 52).toNat + 1
    then _ else if (1#1 ++ unpackMantissa bits).toNat.log2 + 1 = 53 then _ else _) = bits
  rw [biased, if_neg (by omega), if_pos long]
  refine packComponents_of_fields ?_ ?_
  · show unpackExponent bits = BitVec.ofNat 11
      (((unpackExponent bits).toNat : Int) - (1023 + 52) + 1023 + 52).toNat
    rw [biased]
    exact (BitVec.setWidth_eq _).symm.trans (BitVec.ofNat_toNat 11 _).symm
  · apply BitVec.eq_of_toNat_eq
    show (unpackMantissa bits).toNat = (1#1 ++ unpackMantissa bits).toNat % 2 ^ 52
    omega

/-- Unpacking and packing gives the same bits, if they are those of a double. -/
theorem pack_unpack (valid : Format.binary64.Valid bits) :
    pack Format.binary64 (unpack Format.binary64 bits) = bits := by
  unfold unpack
  by_cases full : unpackExponent bits = -1#11
  · rw [if_pos full]
    by_cases none : unpackMantissa bits = 0#52
    · rw [if_pos none]
      exact packComponents_of_fields full none
    · rw [if_neg none]
      exact (valid.eq_packedNaN full none).symm
  · rw [if_neg full]
    by_cases empty : unpackExponent bits = 0#11
    · rw [if_pos empty]
      by_cases none : unpackMantissa bits = 0#52
      · rw [dif_pos none]
        exact packComponents_of_fields empty none
      · rw [dif_neg none]
        exact pack_subnormal empty _
    · rw [if_neg empty]
      have small : (unpackExponent bits).toNat < 2047 := by
        have bound : (unpackExponent bits).toNat < 2 ^ 11 := (unpackExponent bits).isLt
        have other : (unpackExponent bits).toNat ≠ 2047 := fun same =>
          full (BitVec.eq_of_toNat_eq same)
        omega
      exact pack_normal small _

/-! ## Doubles by rank -/

/-- Doubles with the same bits are the same. -/
theorem eq_of_toBits_eq {x y : Float} (same : x.toBits = y.toBits) : x = y := by
  obtain ⟨⟨bits, valid⟩⟩ := x
  obtain ⟨⟨others, othersValid⟩⟩ := y
  have equal : bits = others := same
  subst equal
  rfl

/-- A double is given by its bits. -/
theorem ofBits_toBits (x : Float) : Float.ofBits x.toBits = x := by
  apply eq_of_toBits_eq
  apply UInt64.toBitVec_inj.mp
  exact pack_unpack x.toModel.valid

/-- A double is given by its sign and its rank. -/
theorem ofRank_rank (x : Float) : ofRank (isNegative x) (rank x) = x := by
  have bound : x.toBits.toNat < 2 ^ 64 := x.toBits.toNat_lt
  have whole : (if isNegative x then Nat.pow 2 63 + rank x else rank x) = x.toBits.toNat := by
    unfold isNegative rank
    show (if decide (2 ^ 63 ≤ x.toBits.toNat) = true then 2 ^ 63 + x.toBits.toNat % 2 ^ 63
      else x.toBits.toNat % 2 ^ 63) = x.toBits.toNat
    by_cases negative : 2 ^ 63 ≤ x.toBits.toNat
    · rw [if_pos (decide_eq_true negative)]
      omega
    · rw [if_neg (by simpa using negative)]
      omega
  unfold ofRank
  rw [whole, UInt64.ofNat_toNat, ofBits_toBits]

/-- The bits of a NaN have a full exponent field and some bit in the mantissa field. -/
theorem isNaN_unpack_iff (bits : BitVec Format.binary64.numBits) :
    (unpack Format.binary64 bits).isNaN = true ↔
      unpackExponent bits = -1#11 ∧ unpackMantissa bits ≠ 0#52 := by
  unfold unpack
  by_cases full : unpackExponent bits = -1#11
  · rw [if_pos full]
    by_cases none : unpackMantissa bits = 0#52
    · rw [if_pos none]
      exact ⟨fun same => (by cases same), fun fields => absurd none fields.2⟩
    · rw [if_neg none]
      exact ⟨fun _ => ⟨full, none⟩, fun _ => rfl⟩
  · rw [if_neg full]
    refine ⟨fun same => ?_, fun fields => absurd fields.1 full⟩
    by_cases empty : unpackExponent bits = 0#11
    · rw [if_pos empty] at same
      by_cases none : unpackMantissa bits = 0#52
      · rw [dif_pos none] at same
        cases same
      · rw [dif_neg none] at same
        cases same
    · rw [if_neg empty] at same
      cases same

/-- A double is a NaN exactly if it ranks above infinity. -/
theorem isNaN_iff (x : Float) : x.isNaN = true ↔ infinityRank < rank x := by
  have exponent := toNat_unpackExponent x.toModel.toBits.toBitVec
  have mantissa := toNat_unpackMantissa x.toModel.toBits.toBitVec
  have fields := isNaN_unpack_iff x.toModel.toBits.toBitVec
  rw [ne_eq, ← BitVec.toNat_inj, ← BitVec.toNat_inj, exponent, mantissa] at fields
  refine fields.trans ?_
  show (x.toModel.toBits.toBitVec.toNat / 2 ^ 52 % 2 ^ 11 = 2047 ∧
      ¬ x.toModel.toBits.toBitVec.toNat % 2 ^ 52 = 0) ↔
    2047 * 2 ^ 52 < x.toModel.toBits.toBitVec.toNat % 2 ^ 63
  omega

/-- There is one NaN. -/
theorem eq_nan_of_isNaN {x : Float} (notNumber : x.isNaN = true) : x = nan := by
  have fields := (isNaN_unpack_iff x.toModel.toBits.toBitVec).mp notNumber
  have canonical := x.toModel.valid.eq_packedNaN fields.1 fields.2
  apply eq_of_toBits_eq
  apply UInt64.toBitVec_inj.mp
  rw [show x.toBits.toBitVec = packedNaN Format.binary64 from canonical]
  decide +kernel

end PrefixCalc.Double
