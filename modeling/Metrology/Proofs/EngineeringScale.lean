import Metrology.Engineering
import Metrology.Proofs.LogarithmBounds

/-!
The scaled value of the engineering notation. The degree is within a rounding error of the third
of the common logarithm, and the powers of a thousand are accurate as far as they are finite,
which is up to the 102nd. So a value of degree `-102` or more is scaled next to the range from one
to a thousand, and a smaller one overflows.
-/

open Real

namespace Metrology

namespace Engineering

open Precision (rounded)

open Logarithm (logarithm)

section Power

theorem thousandPower_accurate : ∀ n < 103,
    (thousandPower n).toRat?.any (fun t => |t - 1000 ^ n| * 2 ^ 50 ≤ 1000 ^ n) = true := by
  decide +kernel

theorem toRat?_thousandPower {n : Nat} (hn : n < 103) :
    ∃ t, (thousandPower n).toRat? = some t ∧ |t - 1000 ^ n| * 2 ^ 50 ≤ 1000 ^ n := by
  obtain ⟨t, ht, hclose⟩ := (Option.any_eq_true _ _).mp (thousandPower_accurate n hn)
  exact ⟨t, ht, of_decide_eq_true hclose⟩

theorem thousandPower_overflow : ∀ n < 6, thousandPower (103 + n) = .infinite false := by
  decide +kernel

end Power

section Degree

variable {value : Binary .double} {a : ℚ}

theorem degree_of_zero (hx : value.toRat? = some 0) : degree value = 0 :=
  if_pos ((Binary.isZero_eq_true_iff hx).mpr rfl)

theorem toRat?_third (hx : value.toRat? = some a) (ha : a ≠ 0) :
    (value.log10.div (Binary.ofInt 3)).toRat? = some (rounded .double (logarithm a / 3)) := by
  have hthree : (Binary.ofInt 3 : Binary .double).toRat? = some 3 := by
    decide +kernel
  apply Binary.toRat?_div (Logarithm.toRat?_log10 hx ha) hthree (by norm_num)
  apply Logarithm.le_greatest
  rw [abs_div, abs_of_pos (by norm_num : (0 : ℚ) < 3)]
  have := (Logarithm.isLogarithm hx ha).abs_le_of_toRat? hx ha
  linarith

theorem degree_eq (hx : value.toRat? = some a) (ha : a ≠ 0) :
    degree value = ⌊rounded .double (logarithm a / 3)⌋ := by
  have hzero : ¬value.isZero = true := fun h => ha ((Binary.isZero_eq_true_iff hx).mp h)
  rw [degree, if_neg hzero, Binary.floor?_of_toRat? (toRat?_third hx ha)]
  rfl

theorem le_degree_iff (hx : value.toRat? = some a) (ha : a ≠ 0) {n : Int} :
    n ≤ degree value ↔ (n : ℚ) ≤ rounded .double (logarithm a / 3) := by
  rw [degree_eq hx ha, Int.le_floor]

theorem abs_degree_le (hx : value.toRat? = some a) (ha : a ≠ 0) : |degree value| ≤ 128 := by
  have hlogarithm := (Logarithm.isLogarithm hx ha).abs_le_of_toRat? hx ha
  have hthird : |logarithm a / 3| ≤ 2 ^ 7 := by
    rw [abs_div, abs_of_pos (by norm_num : (0 : ℚ) < 3)]
    linarith
  obtain ⟨hlower, hupper⟩ := abs_le.mp (Logarithm.abs_rounded_le_two_pow 7 hthird)
  rw [degree_eq hx ha, abs_le]
  constructor
  · exact Int.le_floor.mpr (by norm_num at hlower ⊢; exact hlower)
  · exact Int.floor_le_iff.mpr (by norm_num at hupper ⊢; linarith)

/-- A thousand to the degree is not above the value, up to the error of the logarithm. -/
theorem degree_le_logb (hx : value.toRat? = some a) (ha : a ≠ 0) :
    3 * (degree value : ℝ) - 1 / 2 ^ 43 ≤ logb 10 |(a : ℝ)| := by
  have hdegree : (degree value : ℝ) ≤ rounded .double (logarithm a / 3) := by
    exact_mod_cast (le_degree_iff hx ha).mp le_rfl
  have hround := (abs_le.mp (Logarithm.abs_rounded_double_sub_le (logarithm a / 3))).2
  have hlogarithm : |((logarithm a / 3 : ℚ) : ℝ)| ≤ 108 := by
    have h : |logarithm a / 3| ≤ 108 := by
      rw [abs_div, abs_of_pos (by norm_num : (0 : ℚ) < 3)]
      linarith [(Logarithm.isLogarithm hx ha).abs_le_of_toRat? hx ha]
    exact_mod_cast h
  have herror := (abs_le.mp (Logarithm.isLogarithm hx ha).error).2
  push_cast at hround hlogarithm
  linarith

theorem logb_le_degree_succ (hx : value.toRat? = some a) (ha : a ≠ 0) :
    logb 10 |(a : ℝ)| ≤ 3 * (degree value + 1 : ℝ) + 1 / 2 ^ 43 := by
  have hbound := abs_le.mp (abs_degree_le hx ha)
  have hbits : 2 ^ (Precision.fractionBits .double + 1) = 9007199254740992 := by decide
  have hlt : logarithm a / 3 < (degree value + 1 : Int) := by
    by_contra! hle
    have hround := Precision.double.rounded_mono hle
    rw [Precision.rounded_intCast _ (by omega), ← le_degree_iff hx ha] at hround
    omega
  have hreal : (logarithm a : ℝ) < 3 * (degree value + 1) := by
    have h : logarithm a < 3 * (degree value + 1 : Int) := by linarith
    exact_mod_cast h
  have herror := (abs_le.mp (Logarithm.isLogarithm hx ha).error).1
  linarith

theorem degree_bounds (hx : value.toRat? = some a) (ha : a ≠ 0) :
    -108 ≤ degree value ∧ degree value ≤ 102 := by
  obtain ⟨hlower, hupper⟩ := Logarithm.abs_logb_le hx ha
  have h := degree_le_logb hx ha
  have h' := logb_le_degree_succ hx ha
  have hlt : (-109 : ℝ) < degree value := by linarith
  have hlt' : (degree value : ℝ) < 103 := by linarith
  have : -109 < degree value := by exact_mod_cast hlt
  have : degree value < 103 := by exact_mod_cast hlt'
  omega

theorem abs_bounds (hx : value.toRat? = some a) (ha : a ≠ 0) :
    (1000 : ℚ) ^ degree value * (1 - 1 / 2 ^ 41) ≤ |a| ∧
      |a| ≤ 1000 * (1000 : ℚ) ^ degree value * (1 + 1 / 2 ^ 41) := by
  have hpos : (0 : ℝ) < |(a : ℝ)| := abs_pos.mpr (mod_cast ha)
  have hthousand : (10 : ℝ) ^ (3 * degree value) = (1000 : ℝ) ^ degree value := by
    rw [zpow_mul]
    norm_num
  have hlower :=
    Logarithm.pow_ten_le_of_le_logb (n := 3 * degree value) hpos
      (by norm_num : (0 : ℝ) ≤ 1 / 2 ^ 43)
      (by push_cast; exact degree_le_logb hx ha)
  have hupper :=
    Logarithm.le_pow_ten_of_logb_le (n := 3 * degree value + 3) hpos
      (by norm_num : (0 : ℝ) ≤ 1 / 2 ^ 43)
      (by norm_num) (by push_cast; linarith [logb_le_degree_succ hx ha])
  rw [zpow_add₀ (by norm_num)] at hupper
  rw [hthousand] at hlower hupper
  have hscale : (0 : ℝ) < 1000 ^ degree value := by positivity
  constructor
  · have h : (1000 : ℝ) ^ degree value * (1 - 1 / 2 ^ 41) ≤ |(a : ℝ)| := by nlinarith
    rw [← Rat.cast_le (K := ℝ)]
    push_cast
    exact h
  · have h : |(a : ℝ)| ≤ 1000 * (1000 : ℝ) ^ degree value * (1 + 1 / 2 ^ 41) := by
      norm_num at hupper ⊢
      nlinarith
    rw [← Rat.cast_le (K := ℝ)]
    push_cast
    exact h

end Degree

section Reach

variable {value : Binary .double} {a : ℚ}

/-- The logarithm at the least number in reach is not below `-306`, and it is so at no smaller
number. -/
theorem neg_le_degree_iff (hx : value.toRat? = some a) (ha : a ≠ 0) :
    -102 ≤ degree value ↔ reach ≤ |a| := by
  have hlogarithm := Logarithm.isLogarithm hx ha
  rw [le_degree_iff hx ha]
  constructor
  · intro h
    by_contra! hlt
    have hle := hlogarithm.of_lt_reach hlt
    have hround :=
      Precision.double.rounded_mono (div_le_div_of_nonneg_right hle (by norm_num : (0 : ℚ) ≤ 3))
    have hbelow : rounded .double ((-306 - 1 / 2 ^ 44) / 3) < (-102 : Int) := by
      decide +kernel
    exact absurd (h.trans hround) (not_le.mpr hbelow)
  · intro h
    have hle := hlogarithm.le_of_reach h
    have hround :=
      Precision.double.rounded_mono (div_le_div_of_nonneg_right hle (by norm_num : (0 : ℚ) ≤ 3))
    have hexact : rounded .double (-306 / 3) = (-102 : Int) := by
      decide +kernel
    rwa [hexact] at hround

end Reach

section Scaled

variable {value : Binary .double} {a : ℚ}

/-- Next to the range from one to a thousand. -/
structure InRange (b : ℚ) : Prop where
  lower : 1 - 1 / 2 ^ 40 ≤ b
  upper : b ≤ 1000 * (1 + 1 / 2 ^ 40)

/-- The exact quotient or product with the power of a thousand that is at hand. -/
theorem exists_exact_scaled (hx : value.toRat? = some a) (ha : a ≠ 0) (hd : -102 ≤ degree value) :
    ∃ q, (|q| ≤ Precision.greatest .double → (scaled value).toRat? = some (rounded .double q)) ∧
      |q * 1000 ^ degree value - a| ≤ |a| / 2 ^ 49 := by
  obtain ⟨-, hd'⟩ := degree_bounds hx ha
  obtain ⟨t, ht, hclose⟩ := toRat?_thousandPower (n := (degree value).natAbs) (by omega)
  have hpower : (0 : ℚ) < 1000 ^ (degree value).natAbs := by positivity
  rw [← le_div_iff₀ (by norm_num)] at hclose
  obtain ⟨hlower, hupper⟩ := abs_le.mp hclose
  have htpos : 0 < t := by linarith
  rcases le_or_gt 0 (degree value) with hsign | hsign
  · have hzpow : (1000 : ℚ) ^ degree value = 1000 ^ (degree value).natAbs := by
      rw [← zpow_natCast, Int.natAbs_of_nonneg hsign]
    refine ⟨a / t, fun h => ?_, ?_⟩
    · rw [scaled, if_pos hsign]
      exact Binary.toRat?_div hx ht htpos.ne' h
    · have hdifference : a / t * 1000 ^ (degree value).natAbs - a =
          a * ((1000 ^ (degree value).natAbs - t) / t) := by
        field_simp
      have hratio : |(1000 ^ (degree value).natAbs - t) / t| ≤ 1 / 2 ^ 49 := by
        rw [abs_div, abs_of_pos htpos, div_le_iff₀ htpos, abs_le]
        constructor <;> linarith
      rw [hzpow, hdifference, abs_mul, div_eq_mul_one_div |a|]
      exact mul_le_mul_of_nonneg_left hratio (abs_nonneg a)
  · have hzpow : (1000 : ℚ) ^ degree value = (1000 ^ (degree value).natAbs)⁻¹ := by
      rw [← zpow_natCast, Int.ofNat_natAbs_of_nonpos hsign.le, zpow_neg, inv_inv]
    refine ⟨a * t, fun h => ?_, ?_⟩
    · rw [scaled, if_neg (not_le.mpr hsign)]
      exact Binary.toRat?_mul hx ht h
    · have hdifference : a * t * (1000 ^ (degree value).natAbs)⁻¹ - a =
          a * ((t - 1000 ^ (degree value).natAbs) / 1000 ^ (degree value).natAbs) := by
        field_simp
      have hratio : |(t - 1000 ^ (degree value).natAbs) / 1000 ^ (degree value).natAbs| ≤
          1 / 2 ^ 49 := by
        rw [abs_div, abs_of_pos hpower, div_le_iff₀ hpower]
        linarith
      rw [hzpow, hdifference, abs_mul, div_eq_mul_one_div |a|]
      exact mul_le_mul_of_nonneg_left hratio (abs_nonneg a)

theorem inRange_of_close {x : ℚ} (hx : value.toRat? = some a) (ha : a ≠ 0)
    (hclose : |x * 1000 ^ degree value - a| ≤ |a| / 2 ^ 48) : InRange |x| := by
  obtain ⟨hlower, hupper⟩ := abs_bounds hx ha
  have hscale : (0 : ℚ) < 1000 ^ degree value := by positivity
  have hproduct : |x| * 1000 ^ degree value = |x * 1000 ^ degree value| := by
    rw [abs_mul, abs_of_pos hscale]
  obtain ⟨hbelow, habove⟩ := abs_le.mp ((abs_abs_sub_abs_le _ _).trans hclose)
  rw [← hproduct] at hbelow habove
  constructor
  · refine le_of_mul_le_mul_right ?_ hscale
    linarith
  · refine le_of_mul_le_mul_right ?_ hscale
    linarith

theorem abs_rounded_sub_le_of_half {q : ℚ} (h : 1 / 2 ≤ |q|) :
    |rounded .double q - q| ≤ |q| / 2 ^ 52 := by
  have hround := Precision.double.abs_rounded_sub_le q
  have hbits : Precision.fractionBits .double + 1 = 53 := rfl
  have htiny : (1 : ℚ) / 2 ^ (Precision.places .double + 1) ≤ 1 / 2 ^ 54 :=
    one_div_le_one_div_of_le (by positivity) (pow_le_pow_right₀ (by norm_num) (by decide))
  rw [hbits] at hround
  linarith

/-- A value of a degree that the powers of a thousand reach is scaled accurately. -/
theorem toRat?_scaled (hx : value.toRat? = some a) (ha : a ≠ 0) (hd : -102 ≤ degree value) :
    ∃ x, (scaled value).toRat? = some x ∧ InRange |x| ∧
      |x * 1000 ^ degree value - a| ≤ |a| / 2 ^ 48 := by
  obtain ⟨q, hq, hexact⟩ := exists_exact_scaled hx ha hd
  have hapos : 0 < |a| := abs_pos.mpr ha
  have hrange := inRange_of_close hx ha (hexact.trans (by linarith))
  have hscale : (0 : ℚ) < 1000 ^ degree value := by positivity
  have hround :=
    abs_rounded_sub_le_of_half ((by norm_num : (1 / 2 : ℚ) ≤ 1 - 1 / 2 ^ 40).trans hrange.lower)
  have hproduct : |q| * 1000 ^ degree value ≤ |a| + |a| / 2 ^ 49 := by
    rw [← abs_of_pos hscale, ← abs_mul]
    linarith [abs_sub_abs_le_abs_sub (q * 1000 ^ degree value) a]
  have hclose : |rounded .double q * 1000 ^ degree value - a| ≤ |a| / 2 ^ 48 := by
    calc |rounded .double q * 1000 ^ degree value - a|
        = |(rounded .double q - q) * 1000 ^ degree value + (q * 1000 ^ degree value - a)| := by
          congr 1
          ring
      _ ≤ |rounded .double q - q| * 1000 ^ degree value + |q * 1000 ^ degree value - a| := by
          refine (abs_add_le _ _).trans_eq ?_
          rw [abs_mul, abs_of_pos hscale]
      _ ≤ |q| / 2 ^ 52 * 1000 ^ degree value + |a| / 2 ^ 49 := by gcongr
      _ ≤ |a| / 2 ^ 48 := by linarith
  exact ⟨_, hq (Logarithm.le_greatest (hrange.upper.trans (by norm_num))),
    inRange_of_close hx ha hclose, hclose⟩

end Scaled

section Overflow

variable {value : Binary .double} {a : ℚ}

theorem scaled_of_zero (hx : value.toRat? = some 0) : (scaled value).toRat? = some 0 := by
  have hone : (thousandPower 0).toRat? = some 1 := by
    decide +kernel
  rw [scaled, degree_of_zero hx, if_pos le_rfl]
  have h := Binary.toRat?_div hx hone one_ne_zero (by
    rw [zero_div, abs_zero]
    exact Logarithm.le_greatest (by norm_num))
  rwa [zero_div, Precision.rounded_zero] at h

/-- Below the reach the power of a thousand is infinite, and so is its product with the value. -/
theorem scaled_of_not_reach (hx : value.toRat? = some a) (ha : a ≠ 0) (h : ¬reach ≤ |a|) :
    scaled value = .infinite value.isNegative := by
  rw [← neg_le_degree_iff hx ha, not_le] at h
  obtain ⟨hlower, -⟩ := degree_bounds hx ha
  have hpower := thousandPower_overflow ((degree value).natAbs - 103) (by omega)
  rw [Nat.add_sub_cancel' (by omega)] at hpower
  rw [scaled, if_neg (by omega), hpower]
  obtain ⟨negative, code, rfl, rfl⟩ := Binary.exists_finite_of_toRat? hx
  rw [Binary.mul, if_neg (Binary.code_ne_zero ha), Bool.xor_false]
  rfl

end Overflow

end Engineering

end Metrology
