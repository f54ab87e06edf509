import ShadingExport.Decimal.Numeral
import ShadingExport.Proofs.FloatDivision

/-!
# Numerals of documents are finite

An integer of 64 bits is far below the largest double (`Decimal.isFinite_ofInt`), and a numeral
whose magnitude overflows has no double at all, so that every double that a numeral writes is finite
(`Decimal.Numeral.isFinite_of_toFloat?`). Both go through the specification of `Float`: an integer
below `2 ^ 64` is rounded to an exponent that leaves room for every step after it.
-/

namespace ShadingExport

open Float.Model (Format UnpackedFloat totalExponent)
open Float.Model.UnpackedFloat

/-- Changing the sign keeps a number finite. -/
theorem isFinite_neg {number : Float} (h : number.isFinite) : (-number).isFinite := by
  have hfits : Fits number.toModel.unpack := fits_unpack h
  refine isFinite_unpack_pack ?_
  show Fits number.toModel.unpack.neg
  cases hnumber : number.toModel.unpack with
  | infinity sign =>
    rw [hnumber] at hfits
    exact hfits.elim
  | notANumber =>
    rw [hnumber] at hfits
    exact hfits.elim
  | zero sign => trivial
  | finite sign mantissa exponent hpos =>
    rw [hnumber] at hfits
    exact hfits

/-! ## Integers -/

/-- Lowering an exponent by a shift keeps the size of the number. -/
theorem totalExponent_shiftLeft_le (mantissa amount : Nat) (exponent : Int) :
    totalExponent (mantissa <<< amount) (exponent - amount) ≤ totalExponent mantissa exponent := by
  have hlog : (mantissa <<< amount).log2 ≤ mantissa.log2 + amount := by
    refine log2_le_of_lt_two_pow ?_
    rw [Nat.shiftLeft_eq, show mantissa.log2 + amount + 1 = mantissa.log2 + 1 + amount by omega,
      Nat.pow_add]
    exact Nat.mul_lt_mul_of_pos_right Nat.lt_log2_self (Nat.two_pow_pos _)
  rw [totalExponent, totalExponent]
  omega

/-- An integer of 64 bits is rounded to an exponent of at most twelve. -/
theorem fitsBelow_ofNat {number : Nat} (h : number < 2 ^ 64) :
    FitsBelow 12 (UnpackedFloat.ofNat .binary64 number) := by
  have hlog : number.log2 ≤ 63 := log2_le_of_lt_two_pow h
  have hround : FitsBelow 12 (UnpackedFloat.round .binary64 .positive number 0) := by
    unfold UnpackedFloat.round UnpackedFloat.decreaseExponent
    refine fitsBelow_roundWithAccuracy (by decide) (by omega) ?_
    refine (totalExponent_shiftLeft_le _ _ _).trans_lt ?_
    rw [totalExponent]
    omega
  unfold UnpackedFloat.ofNat UnpackedFloat.ofInt UnpackedFloat.normalize
  cases hcompare : compare (number : Int) 0 with
  | eq => trivial
  | gt => exact hround
  | lt =>
    -- No natural number is negative.
    rw [Int.compare_eq_lt] at hcompare
    omega

/-- The product of two numbers is rounded once. -/
theorem mul_finite (format : Format) (sign sign' : UnpackedFloat.Sign) (mantissa mantissa' : Nat)
    (exponent exponent' : Int) (hpos : 0 < mantissa) (hpos' : 0 < mantissa') :
    mul format (.finite sign mantissa exponent hpos) (.finite sign' mantissa' exponent' hpos') =
      roundWithAccuracy format (sign * sign') (mantissa * mantissa') (exponent + exponent')
        .exact :=
  rfl

/-- An integer of 64 bits times one fits. -/
theorem fits_mul_one {number : UnpackedFloat} (h : FitsBelow 12 number) :
    Fits (mul .binary64 number (1 : Float).toModel.unpack) := by
  have hone : (1 : Float).toModel.unpack = .finite .positive (2 ^ 52) (-52) (by decide) := by rfl
  rw [hone]
  cases number with
  | infinity sign => exact h.elim
  | notANumber => exact h.elim
  | zero sign => trivial
  | finite sign mantissa exponent hpos =>
    have hexponent : exponent ≤ 12 := h.2
    have hlog : mantissa.log2 ≤ 52 := log2_le_of_lt_two_pow h.1
    rw [mul_finite]
    refine fits_roundWithAccuracy ?_ ?_
    · rw [largestExponent]
      omega
    · rw [← Nat.shiftLeft_eq]
      refine (totalExponent_shiftLeft_le _ _ _).trans_lt ?_
      rw [totalExponent]
      omega

/-- The specification rounds an integer of 64 bits to a number that fits. -/
theorem fits_ofScientific {number : Nat} (h : number < 2 ^ 64) :
    Fits (UnpackedFloat.ofScientific .binary64 number 0) := by
  have hlog : number.log2 ≤ 63 := log2_le_of_lt_two_pow h
  unfold UnpackedFloat.ofScientific
  by_cases hzero : number = 0
  · rw [dif_pos hzero]
    trivial
  · have hpower : ¬ (0 : Int) < -(2 ^ Format.binary64.exponentBits + (number.log2 : Int)) := by
      show ¬ (0 : Int) < -(2048 + (number.log2 : Int))
      omega
    rw [dif_neg hzero, if_neg (by decide), if_neg hpower, if_pos (Int.le_refl 0)]
    rw [mul_finite, show 10 ^ (0 : Int).toNat = 1 from rfl, Nat.mul_one, Int.add_zero,
      ← Int.zero_sub]
    -- The size does not depend on how far the mantissa is shifted.
    generalize Format.binary64.mantissaBits = amount
    refine fits_roundWithAccuracy ?_ ((totalExponent_shiftLeft_le _ _ _).trans_lt ?_)
    · rw [largestExponent]
      omega
    · rw [totalExponent]
      omega

/-- **The double of an integer of 64 bits is finite.** -/
theorem isFinite_ofScientific {number : Nat} (h : number < 2 ^ 64) :
    (Float.ofScientific number false 0).isFinite := by
  unfold Float.ofScientific
  split
  · -- Up to 53 bits the integer is converted, and multiplied by ten to the zero.
    have hword : number.toUInt64.toNat = number := UInt64.toNat_ofNat_of_lt' h
    refine isFinite_unpack_pack (fits_mul_one ?_)
    refine fitsBelow_unpack_pack (by decide) (by decide) ?_
    show FitsBelow 12 (UnpackedFloat.ofNat .binary64 number.toUInt64.toNat)
    rw [hword]
    exact fitsBelow_ofNat h
  · exact isFinite_unpack_pack (fits_ofScientific h)

/-- The double of an integer of 64 bits and a sign is finite. -/
theorem Decimal.isFinite_ofInt {value : Int} (h : value.natAbs < 2 ^ 64) :
    (Decimal.ofInt value).isFinite := by
  rw [Decimal.ofInt]
  split
  · exact isFinite_neg (isFinite_ofScientific h)
  · exact isFinite_ofScientific h

/-! ## Numerals -/

/-- The double of a magnitude is finite: magnitudes that overflow have none. -/
theorem Decimal.isFinite_of_magnitudeToFloat? {significand : Nat} {exponent : Int} {value : Float}
    (h : Decimal.magnitudeToFloat? significand exponent = some value) : value.isFinite := by
  simp only [Decimal.magnitudeToFloat?] at h
  split at h
  · rw [← Option.some.inj h]
    decide
  · split at h
    · cases h
    · split at h
      next hfinite =>
        rw [← Option.some.inj h]
        exact hfinite
      next => cases h

/-- **The double of a numeral is finite.** -/
theorem Decimal.Numeral.isFinite_of_toFloat? {numeral : Decimal.Numeral} {value : Float}
    (h : numeral.toFloat? = some value) : value.isFinite := by
  obtain ⟨magnitude, hmagnitude, rfl⟩ := Option.map_eq_some_iff.mp h
  have hfinite := Decimal.isFinite_of_magnitudeToFloat? hmagnitude
  split
  · exact isFinite_neg hfinite
  · exact hfinite

end ShadingExport
