import Mathlib
import SheetPress.Proofs.Evaluation.Comparisons

/-!
# Numbers cut to whole ones

A place in a text is a number that is cut to a whole one, and what is no number at all is cut to 0.
That a number is not less than 1 does not tell that it is at least 1 when it is cut: where nothing
compares, nothing is less.

* `clampNat64_pos` — any number that is not less than 1 is cut to a positive one.
-/

namespace SheetPress

open Float.Model Float.Model.UnpackedFloat

theorem mantissa_shiftRight (em : ExtendedMantissa) (n : Nat) :
    (em >>> n).mantissa = em.mantissa / 2 ^ n := by
  induction n with
  | zero => simp [HShiftRight.hShiftRight, Nat.repeat]
  | succ n ih =>
    rw [pow_succ, ← Nat.div_div_eq_div_mul, ← ih]
    rfl

theorem unpack_one : (1.0 : Float).toModel.unpack = .finite .positive (2 ^ 52) (-52) (by decide) := by
  rfl

/-- With as many digits as a mantissa has, something is left in front of the point. -/
theorem one_le_roundToInt {mantissa : Nat} {exponent : Int} (hmantissa : 2 ^ 52 ≤ mantissa)
    (hexponent : -52 ≤ exponent) : 1 ≤ roundToInt .positive mantissa exponent := by
  have hshift : (0 - (exponent - (exponent - 0).toNat)).toNat ≤ 52 := by omega
  have hdigits : 2 ^ (0 - (exponent - (exponent - 0).toNat)).toNat ≤
      mantissa <<< (exponent - 0).toNat := by
    rw [Nat.shiftLeft_eq]
    calc 2 ^ (0 - (exponent - (exponent - 0).toNat)).toNat ≤ 2 ^ 52 :=
          Nat.pow_le_pow_right (by decide) hshift
      _ ≤ mantissa := hmantissa
      _ ≤ _ := Nat.le_mul_of_pos_right _ (Nat.two_pow_pos _)
  have hcut := (Nat.one_le_div_iff (Nat.two_pow_pos _)).2 hdigits
  rw [roundToInt, decreaseExponent]
  dsimp only
  rw [shiftToExponent]
  dsimp only [Sign.apply]
  rw [mantissa_shiftRight]
  exact_mod_cast hcut

variable {x : Float}

/-- Only the numbers next to zero have fewer digits than a mantissa. -/
theorem le_mantissa_of_unpack {sign : Sign} {mantissa : Nat} {exponent : Int} {hpos : 0 < mantissa}
    (h : x.toModel.unpack = .finite sign mantissa exponent hpos) (hexponent : -52 ≤ exponent) :
    2 ^ 52 ≤ mantissa := by
  rw [Float.Model.unpack, UnpackedFloat.unpack] at h
  dsimp only at h
  split at h
  · split at h <;> cases h
  · split at h
    · split at h
      · cases h
      · next hzero _ =>
        rw [hzero] at h
        injection h with _ _ h
        have hlow : (0#11).toNat - (Format.binary64.exponentBias + 52 : Int) + 1 = -1074 := by decide
        omega
    · injection h with _ h
      rw [← h, BitVec.toNat_append]
      exact Nat.left_le_or

theorem clampNat64_of_isNaN (h : x.isNaN = true) : clampNat64 x = 0 := by
  have hclamp : clampNat64 x = x.toModel.unpack.toUInt64.toNat := rfl
  have hisNaN : x.isNaN = x.toModel.unpack.isNaN := rfl
  rw [hisNaN] at h
  rw [hclamp]
  cases hx : x.toModel.unpack with
  | notANumber => rfl
  | _ => rw [hx] at h; cases h

/-- A number that is not less than 1 is at least 1 when it is cut, unless it is no number at all. -/
theorem clampNat64_pos (hnan : x.isNaN = false) (h : ¬ x < 1.0) : 0 < clampNat64 x := by
  have hclamp : clampNat64 x = x.toModel.unpack.toUInt64.toNat := rfl
  have hisNaN : x.isNaN = x.toModel.unpack.isNaN := rfl
  rw [lt_iff_compare, unpack_one] at h
  rw [hisNaN] at hnan
  rw [hclamp]
  cases hx : x.toModel.unpack with
  | notANumber => rw [hx] at hnan; cases hnan
  | infinity sign =>
    cases sign with
    | positive => decide
    | negative => rw [hx] at h; exact absurd rfl h
  | zero sign => rw [hx] at h; exact absurd rfl h
  | finite sign mantissa exponent hpos =>
    rw [hx] at h
    cases sign with
    | negative => exact absurd rfl h
    | positive =>
      have hexponent : -52 ≤ exponent := by
        by_contra hlow
        refine h (congrArg some ?_)
        rw [Int.compare_eq_lt.2 (by omega)]
        rfl
      have hint := one_le_roundToInt (le_mantissa_of_unpack hx hexponent) hexponent
      rw [UnpackedFloat.toUInt64, UnpackedFloat.toInt, UInt64.ofNatClamp]
      split
      · rw [UInt64.toNat_ofNatLT]
        omega
      · decide

end SheetPress
