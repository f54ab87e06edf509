import Mathlib.Algebra.Order.Ring.Nat

/-!
# A quarter of a finite number is finite

Arithmetic on `Float` is specified by unpacked numbers, which are rounded to 53 bits and packed
again. A number that is neither infinite nor undefined has a mantissa of at most 53 bits and an
exponent of at most 971 (`Fits`), and what fits is packed without overflow. Storing a number does
not raise its exponent (`fitsBelow_unpack_pack`), and rounding raises it by one at most
(`fitsBelow_roundWithAccuracy`); a division by four lowers it enough before
(`divCore_four_bounds`), so the quotient fits again (`isFinite_div_four`).
-/

namespace ShadingExport

open Float.Model (Format UnpackedFloat totalExponent)
open Float.Model.UnpackedFloat

theorem log2_le_of_lt_two_pow {number bound : Nat} (h : number < 2 ^ (bound + 1)) :
    number.log2 ≤ bound := by
  by_cases hzero : number = 0
  · rw [hzero, Nat.log2_zero]
    exact Nat.zero_le bound
  · exact Nat.le_of_lt_succ ((Nat.log2_lt hzero).mpr h)

/-! ## Numbers that fit -/

/-- The exponent of the largest finite number, whose mantissa has 53 bits. -/
def largestExponent : Int := 971

/-- The number is zero, or finite with a mantissa and an exponent that the format can hold. -/
def Fits : UnpackedFloat → Prop
  | .zero _ => True
  | .finite _ mantissa exponent _ => mantissa < 2 ^ 53 ∧ exponent ≤ largestExponent
  | .infinity _ => False
  | .notANumber => False

/-- The number is zero, or finite with a mantissa that the format can hold and an exponent up to a
bound. -/
def FitsBelow (bound : Int) : UnpackedFloat → Prop
  | .zero _ => True
  | .finite _ mantissa exponent _ => mantissa < 2 ^ 53 ∧ exponent ≤ bound
  | .infinity _ => False
  | .notANumber => False

/-- What fits has an exponent up to the largest one. -/
theorem fits_iff_fitsBelow {number : UnpackedFloat} :
    Fits number ↔ FitsBelow largestExponent number := by
  cases number <;> rfl

/-- Of the stored numbers, those with an exponent of all ones are not finite. -/
theorem isFinite_unpack_iff {bits : BitVec Format.binary64.numBits} :
    (unpack .binary64 bits).isFinite ↔ unpackExponent bits ≠ -1#_ := by
  unfold unpack
  dsimp only
  by_cases hones : unpackExponent bits = -1#_
  · rw [if_pos hones]
    refine iff_of_false ?_ (not_not_intro hones)
    by_cases hmantissa : unpackMantissa bits = 0#_
    · rw [if_pos hmantissa]
      exact Bool.false_ne_true
    · rw [if_neg hmantissa]
      exact Bool.false_ne_true
  · rw [if_neg hones]
    refine iff_of_true ?_ hones
    by_cases hzero : unpackExponent bits = 0#_
    · rw [if_pos hzero]
      by_cases hmantissa : unpackMantissa bits = 0#_
      · rw [dif_pos hmantissa]
        rfl
      · rw [dif_neg hmantissa]
        rfl
    · rw [if_neg hzero]
      rfl

section Storing

variable {bound : Int} (hlow : -1074 ≤ bound) (hhigh : bound ≤ largestExponent)
include hlow hhigh

/-- A stored exponent bounds the exponent of the number: it is biased by 1075. -/
theorem fitsBelow_unpack {bits : BitVec Format.binary64.numBits}
    (h : ((unpackExponent bits).toNat : Int) ≤ bound + 1075) :
    FitsBelow bound (unpack .binary64 bits) := by
  have hbias : (Format.binary64.exponentBias : Int) = 1023 := rfl
  have hones : unpackExponent bits ≠ -1#_ := by
    intro hones
    have hlast : (unpackExponent bits).toNat = 2047 := by
      rw [hones]
      rfl
    rw [largestExponent] at hhigh
    omega
  unfold unpack
  dsimp only
  rw [if_neg hones]
  by_cases hzero : unpackExponent bits = 0#_
  · rw [if_pos hzero]
    by_cases hmantissa : unpackMantissa bits = 0#_
    · rw [dif_pos hmantissa]
      trivial
    · -- Subnormal numbers have the exponent of the least normal ones.
      rw [dif_neg hmantissa]
      refine ⟨(unpackMantissa bits).isLt.trans (by decide), ?_⟩
      rw [hzero, hbias]
      exact hlow
  · rw [if_neg hzero]
    refine ⟨BitVec.isLt _, ?_⟩
    rw [hbias]
    show ((unpackExponent bits).toNat : Int) - (1023 + 52) ≤ bound
    omega

/-- What fits is stored with an exponent that is no larger. -/
theorem unpackExponent_pack_le {number : UnpackedFloat} (h : FitsBelow bound number) :
    ((unpackExponent (pack .binary64 number)).toNat : Int) ≤ bound + 1075 := by
  cases number with
  | infinity sign => exact h.elim
  | notANumber => exact h.elim
  | zero sign =>
    show ((unpackExponent (packComponents .binary64 sign 0 0)).toNat : Int) ≤ bound + 1075
    rw [unpackExponent_packComponents]
    show (0 : Int) ≤ bound + 1075
    omega
  | finite sign mantissa exponent hpos =>
    have hexponent : exponent ≤ bound := h.2
    rw [largestExponent] at hhigh
    show ((unpackExponent (if 2 ^ 11 ≤ (exponent + 1023 + 52).toNat + 1 then
        packedInfinity .binary64 sign
      else if mantissa.log2 + 1 = Format.binary64.mantissaBits then
        packComponents .binary64 sign (BitVec.ofNat 11 (exponent + 1023 + 52).toNat)
          (BitVec.ofNat 52 mantissa)
      else packComponents .binary64 sign 0#11 (BitVec.ofNat 52 mantissa))).toNat : Int) ≤
        bound + 1075
    generalize hbiased : (exponent + 1023 + 52).toNat = biased
    rw [if_neg (by omega)]
    split
    · -- A normal number keeps its biased exponent.
      rw [unpackExponent_packComponents]
      show ((biased % 2 ^ 11 : Nat) : Int) ≤ bound + 1075
      rw [Nat.mod_eq_of_lt (by omega)]
      omega
    · rw [unpackExponent_packComponents]
      show (0 : Int) ≤ bound + 1075
      omega

/-- **Storing a number does not raise its exponent.** -/
theorem fitsBelow_unpack_pack {number : UnpackedFloat} (h : FitsBelow bound number) :
    FitsBelow bound (unpack .binary64 (pack .binary64 number)) :=
  fitsBelow_unpack hlow hhigh (unpackExponent_pack_le hlow hhigh h)

end Storing

/-- Stored finite numbers fit. -/
theorem fits_unpack {bits : BitVec Format.binary64.numBits}
    (h : (unpack .binary64 bits).isFinite) : Fits (unpack .binary64 bits) := by
  rw [isFinite_unpack_iff] at h
  -- Of 2048 exponents the last one is excluded, and the others are biased.
  have hstored : (unpackExponent bits).toNat ≤ 2046 := by
    have hlt : (unpackExponent bits).toNat < 2048 := (unpackExponent bits).isLt
    have hne : (unpackExponent bits).toNat ≠ 2047 := fun heq => h (BitVec.eq_of_toNat_eq heq)
    omega
  refine fits_iff_fitsBelow.mpr (fitsBelow_unpack (by decide) (Int.le_refl _) ?_)
  rw [largestExponent]
  omega

/-- A number that fits is stored as a finite one. -/
theorem isFinite_unpack_pack {number : UnpackedFloat} (h : Fits number) :
    (unpack .binary64 (pack .binary64 number)).isFinite := by
  have hstored := unpackExponent_pack_le (by decide) (Int.le_refl _) (fits_iff_fitsBelow.mp h)
  rw [isFinite_unpack_iff]
  intro hones
  -- The exponent of infinity is the only one that is larger.
  have hlast : (unpackExponent (pack .binary64 number)).toNat = 2047 := by
    rw [hones]
    rfl
  rw [largestExponent] at hstored
  omega

/-! ## Rounding -/

theorem mantissa_shiftRight (extended : ExtendedMantissa) (amount : Nat) :
    (extended >>> amount).mantissa = extended.mantissa / 2 ^ amount := by
  induction amount with
  | zero => exact (Nat.div_one _).symm
  | succ amount ih =>
    show (extended >>> amount).mantissa / 2 = _
    rw [ih, Nat.div_div_eq_div_mul, Nat.pow_succ]

theorem mantissa_ofMantissaAndAccuracy (mantissa : Nat) (accuracy : Accuracy) :
    (ExtendedMantissa.ofMantissaAndAccuracy mantissa accuracy).mantissa = mantissa := by
  cases accuracy with
  | exact => rfl
  | inexact ordering => cases ordering <;> rfl

/-- Rounding a mantissa raises it by one at most. -/
theorem roundedMantissa_le (extended : ExtendedMantissa) :
    extended.roundedMantissa ≤ extended.mantissa + 1 := by
  obtain ⟨mantissa, round, sticky⟩ := extended
  cases round <;> cases sticky <;>
    simp only [ExtendedMantissa.roundedMantissa, ExtendedMantissa.accuracy,
      Accuracy.roundToNearestEven] <;>
    omega

/-- Shifting to the target leaves at most 53 bits, and raises the exponent as far as these ask. -/
theorem shiftToTargetExponent_spec (mantissa : Nat) (exponent : Int) (accuracy : Accuracy) :
    let shifted := shiftToTargetExponent .binary64 mantissa exponent accuracy
    shifted.1.mantissa < 2 ^ 53 ∧
      shifted.2 = max exponent (max (totalExponent mantissa exponent - 53) (-1074)) := by
  dsimp only [shiftToTargetExponent, shiftToExponent]
  rw [mantissa_shiftRight, mantissa_ofMantissaAndAccuracy]
  have htarget : Format.binary64.targetExponent (totalExponent mantissa exponent) =
      max (totalExponent mantissa exponent - 53) (-1074) := rfl
  rw [htarget]
  constructor
  · generalize hamount :
      (max (totalExponent mantissa exponent - 53) (-1074) - exponent).toNat = amount
    have hlog : mantissa.log2 + 1 ≤ 53 + amount := by
      rw [totalExponent] at hamount
      omega
    rw [Nat.div_lt_iff_lt_mul (Nat.two_pow_pos _), ← Nat.pow_add]
    exact Nat.lt_log2_self.trans_le (Nat.pow_le_pow_right (by decide) hlog)
  · omega

/-- **What is small enough before rounding is so afterwards.** -/
theorem fitsBelow_roundWithAccuracy {bound : Int} (hlow : -1074 < bound) {sign : Sign}
    {mantissa : Nat} {exponent : Int} {accuracy : Accuracy} (hexponent : exponent < bound)
    (htotal : totalExponent mantissa exponent < bound + 53) :
    FitsBelow bound (roundWithAccuracy .binary64 sign mantissa exponent accuracy) := by
  obtain ⟨hmantissa, hfirst⟩ := shiftToTargetExponent_spec mantissa exponent accuracy
  unfold roundWithAccuracy
  generalize shiftToTargetExponent .binary64 mantissa exponent accuracy = first at *
  obtain ⟨hlast, hsecond⟩ :=
    shiftToTargetExponent_spec first.1.roundedMantissa first.2 .exact
  dsimp only at *
  -- The rounded mantissa has 54 bits at most, so that the second shift is by one at most.
  have hrounded : first.1.roundedMantissa.log2 ≤ 53 := by
    have hle := roundedMantissa_le first.1
    exact log2_le_of_lt_two_pow (by omega)
  by_cases hzero : (shiftToTargetExponent .binary64 first.1.roundedMantissa first.2
      .exact).1.mantissa = 0
  · rw [dif_pos hzero]
    trivial
  · rw [dif_neg hzero]
    refine ⟨hlast, ?_⟩
    rw [hsecond, hfirst]
    simp only [totalExponent] at *
    omega

/-- What is small enough before rounding fits afterwards. -/
theorem fits_roundWithAccuracy {sign : Sign} {mantissa : Nat} {exponent : Int}
    {accuracy : Accuracy} (hexponent : exponent < largestExponent)
    (htotal : totalExponent mantissa exponent < 1024) :
    Fits (roundWithAccuracy .binary64 sign mantissa exponent accuracy) :=
  fits_iff_fitsBelow.mpr (fitsBelow_roundWithAccuracy (by decide) hexponent htotal)

/-! ## Division by four -/

/-- The quotient of a number that fits by four, before it is rounded. -/
theorem divCore_four_bounds {mantissa : Nat} {exponent : Int} (hmantissa : mantissa < 2 ^ 53)
    (hexponent : exponent ≤ largestExponent) :
    let quotient := divCore .binary64 mantissa exponent (2 ^ 52) (-50)
    quotient.2.1 < largestExponent ∧ totalExponent quotient.1 quotient.2.1 < 1024 := by
  dsimp only [divCore]
  have htarget : Format.binary64.targetExponent
      (totalExponent mantissa exponent - totalExponent (2 ^ 52) (-50)) =
        max (totalExponent mantissa exponent - 3 - 53) (-1074) := rfl
  rw [htarget]
  have hlog : mantissa.log2 ≤ 52 := log2_le_of_lt_two_pow hmantissa
  generalize hlow :
    min (exponent - -50) (max (totalExponent mantissa exponent - 3 - 53) (-1074)) = low
  generalize hamount : (exponent - -50 - low).toNat = amount
  -- The dividend has at most 53 bits before the shift, and the divisor has that many.
  have hquotient : (mantissa <<< amount / 2 ^ 52).log2 ≤ amount := by
    refine log2_le_of_lt_two_pow ?_
    rw [Nat.div_lt_iff_lt_mul (Nat.two_pow_pos _), Nat.shiftLeft_eq, ← Nat.pow_add,
      show amount + 1 + 52 = 53 + amount by omega, Nat.pow_add]
    exact Nat.mul_lt_mul_of_pos_right hmantissa (Nat.two_pow_pos _)
  simp only [totalExponent, largestExponent] at *
  omega

/-- A quarter of a number that fits is again one. -/
theorem fits_div_four {number : UnpackedFloat} (h : Fits number) :
    Fits (div .binary64 number (4 : Float).toModel.unpack) := by
  have hfour : (4 : Float).toModel.unpack = .finite .positive (2 ^ 52) (-50) (by decide) := by rfl
  rw [hfour]
  cases number with
  | infinity sign => exact h.elim
  | notANumber => exact h.elim
  | zero sign => trivial
  | finite sign mantissa exponent hpos =>
    obtain ⟨hlow, htotal⟩ := divCore_four_bounds h.1 h.2
    exact fits_roundWithAccuracy hlow htotal

/-- **A quarter of a finite number is finite.** -/
theorem isFinite_div_four {number : Float} (h : number.isFinite) : (number / 4).isFinite :=
  isFinite_unpack_pack (fits_div_four (fits_unpack h))

end ShadingExport
