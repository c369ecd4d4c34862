import XmlQuery.Number.Binary

/-!
# Doubles that are numbers

What a quotient is rounded to is a number: its bits are at most those of infinity, and beyond
these are the ones that stand for no number. Bits become a double by way of its parts, so the parts
are looked at twice, when the bits are taken apart and when the double is.

## Main results

* `isNaN_unpack_eq_false_iff`: the bits that stand for numbers
* `isNaN_nearest`: **a quotient is rounded to a number**
-/

namespace XmlQuery.Number

open Float.Model (Format UnpackedFloat)

theorem toNat_unpackExponent (b : BitVec 64) :
    (@UnpackedFloat.unpackExponent Format.binary64 b).toNat =
      b.toNat / Nat.pow 2 52 % Nat.pow 2 11 := by
  simp only [UnpackedFloat.unpackExponent, BitVec.toNat_cast, BitVec.extractLsb_toNat,
    Nat.shiftRight_eq_div_pow]

theorem toNat_unpackMantissa (b : BitVec 64) :
    (@UnpackedFloat.unpackMantissa Format.binary64 b).toNat = b.toNat % Nat.pow 2 52 := by
  simp only [UnpackedFloat.unpackMantissa, BitVec.toNat_cast, BitVec.extractLsb_toNat,
    Nat.shiftRight_zero]

/-- Bits stand for a number unless their exponent is the greatest one and they have a fraction. -/
theorem isNaN_unpack_eq_false_iff (b : BitVec 64) :
    (UnpackedFloat.unpack Format.binary64 b).isNaN = false ↔
      (b.toNat / Nat.pow 2 52 % Nat.pow 2 11 = 2047 → b.toNat % Nat.pow 2 52 = 0) := by
  have hexponent : (@UnpackedFloat.unpackExponent Format.binary64 b).toNat = 2047 ↔
      @UnpackedFloat.unpackExponent Format.binary64 b = -1#11 :=
    BitVec.toNat_inj (y := -1#11)
  have hmantissa : (@UnpackedFloat.unpackMantissa Format.binary64 b).toNat = 0 ↔
      @UnpackedFloat.unpackMantissa Format.binary64 b = 0#52 :=
    BitVec.toNat_inj (y := 0#52)
  rw [← toNat_unpackExponent, ← toNat_unpackMantissa, hexponent, hmantissa]
  unfold UnpackedFloat.unpack
  dsimp only
  by_cases hgreatest : @UnpackedFloat.unpackExponent Format.binary64 b = -1#11
  · rw [if_pos hgreatest]
    by_cases hzero : @UnpackedFloat.unpackMantissa Format.binary64 b = 0#52
    · rw [if_pos hzero]
      exact iff_of_true rfl fun _ => hzero
    · rw [if_neg hzero]
      exact iff_of_false Bool.noConfusion fun h => hzero (h hgreatest)
  · rw [if_neg hgreatest]
    refine iff_of_true ?_ fun h => absurd h hgreatest
    by_cases hleast : @UnpackedFloat.unpackExponent Format.binary64 b = 0#11
    · rw [if_pos hleast]
      by_cases hzero : @UnpackedFloat.unpackMantissa Format.binary64 b = 0#52
      · rw [dif_pos hzero]
        rfl
      · rw [dif_neg hzero]
        rfl
    · rw [if_neg hleast]
      rfl

/-- A number is still one when it is made into bits and taken apart again. -/
theorem isNaN_unpack_pack {f : UnpackedFloat} (h : f.isNaN = false) :
    (UnpackedFloat.unpack Format.binary64 (UnpackedFloat.pack Format.binary64 f)).isNaN =
      false := by
  rw [isNaN_unpack_eq_false_iff, ← toNat_unpackExponent, ← toNat_unpackMantissa]
  intro hexponent
  cases f with
  | notANumber => cases h
  | infinity s => exact congrArg BitVec.toNat UnpackedFloat.unpackMantissa_packComponents
  | zero s => exact congrArg BitVec.toNat UnpackedFloat.unpackMantissa_packComponents
  | finite s m e hpos =>
    unfold UnpackedFloat.pack at hexponent ⊢
    dsimp only at hexponent ⊢
    split at hexponent
    · next hlarge =>
      -- What is too large for a finite double becomes an infinity.
      rw [if_pos hlarge]
      exact congrArg BitVec.toNat UnpackedFloat.unpackMantissa_packComponents
    · next hlarge =>
      split at hexponent
      · rw [UnpackedFloat.unpackExponent_packComponents] at hexponent
        simp only [BitVec.toNat_ofNat, Nat.reducePow] at hexponent hlarge
        omega
      · rw [UnpackedFloat.unpackExponent_packComponents] at hexponent
        exact absurd hexponent (by decide)

theorem isNaN_ofMagnitude (negative : Bool) {bits : Nat} (h : bits ≤ infinityBits) :
    (ofMagnitude negative bits).isNaN = false := by
  refine isNaN_unpack_pack ((isNaN_unpack_eq_false_iff _).2 fun hexponent => ?_)
  rw [infinityBits] at h
  have hlt : (if negative then bits + Nat.pow 2 63 else bits) < UInt64.size := by
    cases negative <;> simp only [UInt64.size, Nat.pow_eq, Nat.reducePow] <;> grind
  change (UInt64.ofNat _).toNat / Nat.pow 2 52 % Nat.pow 2 11 = 2047 at hexponent
  change (UInt64.ofNat _).toNat % Nat.pow 2 52 = 0
  rw [UInt64.toNat_ofNat_of_lt' hlt] at hexponent ⊢
  cases negative <;>
    simp only [Bool.false_eq_true, ↓reduceIte, Nat.pow_eq, Nat.reducePow] at hexponent ⊢ <;> omega

/-- **A quotient is rounded to a number**, which may be an infinity. -/
theorem isNaN_nearest (negative : Bool) (num den : Nat) :
    (nearest negative num den).isNaN = false := by
  refine isNaN_ofMagnitude negative ?_
  rw [nearestBits]
  split
  · exact Nat.zero_le _
  · exact Nat.min_le_right _ _

theorem isNaN_nan : nan.isNaN = true := by decide

end XmlQuery.Number
