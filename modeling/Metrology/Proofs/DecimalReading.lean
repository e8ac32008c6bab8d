import Mathlib.Algebra.Order.Field.Power
import Metrology.Binary.Shortest
import Metrology.Proofs.DecimalText

namespace Metrology

namespace Decimal

variable {d : Decimal}

def value (d : Decimal) : ℚ :=
  d.significand * 10 ^ d.exponent

theorem value_nonneg (d : Decimal) : 0 ≤ d.value := by
  unfold value
  positivity

theorem value_of_significand_eq_zero (h : d.significand = 0) : d.value = 0 := by
  rw [value, h, Nat.cast_zero, zero_mul]

theorem ten_zpow_eq_div (n : Int) :
    (10 : ℚ) ^ n = (tenPow n.toNat : Nat) / (tenPow (-n).toNat : Nat) := by
  rw [eq_div_iff (by simp [tenPow_eq]), tenPow_eq, tenPow_eq, Nat.cast_pow, Nat.cast_pow,
    Nat.cast_ofNat, ← zpow_natCast, ← zpow_natCast, ← zpow_add₀ (by norm_num)]
  congr 1
  omega

theorem value_eq_div (d : Decimal) :
    d.value =
      (d.significand * tenPow d.exponent.toNat : Nat) / (tenPow (-d.exponent).toNat : Nat) := by
  rw [value, ten_zpow_eq_div, Nat.cast_mul, mul_div_assoc]

theorem pow_length_digits_le {n : Nat} (hn : n ≠ 0) : 10 ^ ((digits n).length - 1) ≤ n := by
  rcases Nat.eq_zero_or_pos ((digits n).length - 1) with hlength | hlength
  · rw [hlength]
    exact Nat.pos_of_ne_zero hn
  · rw [← lt_length_digits_iff hlength]
    omega

theorem lt_pow_length_digits (n : Nat) : n < 10 ^ (digits n).length :=
  (length_digits_le_iff (length_digits_pos n)).mp le_rfl

theorem pow_leading_le_value (h : d.significand ≠ 0) : (10 : ℚ) ^ d.leading ≤ d.value := by
  have hlength := length_digits_pos d.significand
  have hleading : d.leading = ((digits d.significand).length - 1 : Nat) + d.exponent := by
    unfold leading
    omega
  rw [hleading, zpow_add₀ (by norm_num), zpow_natCast, value]
  gcongr
  exact_mod_cast pow_length_digits_le h

theorem value_lt_pow_leading (d : Decimal) : d.value < (10 : ℚ) ^ (d.leading + 1) := by
  have hleading : d.leading + 1 = (digits d.significand).length + d.exponent := by
    unfold leading
    omega
  rw [hleading, zpow_add₀ (by norm_num), zpow_natCast, value]
  gcongr
  exact_mod_cast lt_pow_length_digits d.significand

end Decimal

namespace Precision

variable {p : Precision}

theorem codeOf_zero (p : Precision) : p.codeOf 0 = 0 := by
  have h := p.codeOf_magnitude 0
  rwa [magnitude_zero] at h

/-- What is less than half a unit is read as zero. -/
theorem codeOf_eq_zero {q : ℚ} (h : 2 * (|q| * 2 ^ p.places) < 1) : p.codeOf q = 0 := by
  obtain ⟨below, hq⟩ := p.isNearest_codeOf q
  have hzero : p.units 0 = 0 := units_of_lt (Nat.two_pow_pos _)
  have hone : p.units (0 + 1) = 1 := by
    rw [units_succ, hzero]
    simp [gap]
  have hnearest : p.IsNearest (|q| * 2 ^ p.places) 0 0 := by
    refine ⟨?_, ?_, .inl ⟨?_, rfl⟩⟩
    · rw [hzero, Nat.cast_zero]
      positivity
    · rw [hone, Nat.cast_one]
      linarith [show 0 ≤ |q| * 2 ^ p.places by positivity]
    · rw [hzero, hone, Nat.cast_zero, Nat.cast_one, zero_add]
      exact h
  exact hq.eq hnearest

theorem units_count_le (p : Precision) :
    p.units p.count ≤ 10 ^ (p.places + 1) * 2 ^ p.places := by
  cases p <;> decide +kernel

theorem count_le_codeOf {q : ℚ} (h : (10 : ℚ) ^ (p.places + 1) ≤ q) : p.count ≤ p.codeOf q := by
  have hmagnitude : p.magnitude p.count ≤ 10 ^ (p.places + 1) := by
    rw [magnitude, div_le_iff₀ (by positivity)]
    exact_mod_cast p.units_count_le
  rw [← p.codeOf_magnitude p.count]
  apply codeOf_mono
  rw [abs_of_nonneg (p.magnitude_nonneg _), abs_of_nonneg (le_trans (by positivity) h)]
  exact hmagnitude.trans h

end Precision

namespace Binary

variable {p : Precision} {negative : Bool} {code : Fin p.count} {q : ℚ} {d : Decimal}

/-- The number nearest to the absolute value of a rational one, with a sign. -/
def nearest (negative : Bool) (q : ℚ) : Binary p :=
  if h : p.codeOf q < p.count then .finite negative ⟨p.codeOf q, h⟩ else .infinite negative

theorem nearest_eq_finite_iff :
    nearest negative q = .finite negative code ↔ p.codeOf q = code := by
  unfold nearest
  split
  · rw [finite.injEq, Fin.ext_iff]
    exact and_iff_right rfl
  · rename_i hcount
    refine iff_of_false nofun fun hcode => hcount ?_
    rw [hcode]
    exact code.isLt

theorem nearest_of_count_le (h : p.count ≤ p.codeOf q) :
    nearest negative q = (.infinite negative : Binary p) :=
  dif_neg (Nat.not_lt.mpr h)

theorem nearest_of_codeOf_eq_zero (h : p.codeOf q = 0) :
    nearest negative q = (zero negative : Binary p) :=
  nearest_eq_finite_iff.mpr h

theorem round_eq_nearest (negative : Bool) (num : Nat) {den : Nat} (hden : 0 < den) :
    (round negative num den : Binary p) = nearest negative (num / den / 2 ^ p.places) := by
  unfold round nearest
  simp only [p.codeOf_ratio num hden]

/-- A decimal is read as the number nearest to its value: the bounds on its first digit only save
the exact computation. -/
theorem ofDecimal_eq_nearest (negative : Bool) (d : Decimal) :
    (ofDecimal negative d : Binary p) = nearest negative d.value := by
  unfold ofDecimal
  split
  · rename_i hsmall
    refine (nearest_of_codeOf_eq_zero ?_).symm
    rcases hsmall with hzero | hleading
    · rw [Decimal.value_of_significand_eq_zero hzero, p.codeOf_zero]
    · apply Precision.codeOf_eq_zero
      have hplaces : 0 < p.places := by cases p <;> decide
      rw [abs_of_nonneg d.value_nonneg]
      calc 2 * (d.value * 2 ^ p.places)
          < 2 * (10 ^ (-(p.places : Int)) * 2 ^ p.places) := by
            gcongr
            refine d.value_lt_pow_leading.trans_le (zpow_le_zpow_right₀ (by norm_num) ?_)
            omega
        _ = 2 * (1 / 5) ^ p.places := by
            rw [zpow_neg, zpow_natCast, ← inv_pow, ← mul_pow]
            norm_num
        _ ≤ 2 * (1 / 5) ^ 1 := by
            gcongr ?_ * ?_
            exact pow_le_pow_of_le_one (by norm_num) (by norm_num) hplaces
        _ < 1 := by norm_num
  · rename_i hsmall
    obtain ⟨hzero, -⟩ := not_or.mp hsmall
    split
    · rename_i hleading
      refine (nearest_of_count_le (Precision.count_le_codeOf ?_)).symm
      refine le_trans ?_ (Decimal.pow_leading_le_value hzero)
      rw [← zpow_natCast]
      apply zpow_le_zpow_right₀ (by norm_num)
      omega
    · have hden : 0 < tenPow (-d.exponent).toNat := Nat.pow_pos (by decide)
      rw [round_eq_nearest _ _ hden, d.value_eq_div]
      congr 1
      rw [twoPow_eq, Nat.cast_mul _ (2 ^ p.places), mul_div_right_comm, Nat.cast_pow 2,
        Nat.cast_ofNat, mul_div_cancel_right₀ _ (by positivity)]

theorem ofDecimal_eq_finite_iff :
    ofDecimal negative d = .finite negative code ↔ p.codeOf d.value = code := by
  rw [ofDecimal_eq_nearest, nearest_eq_finite_iff]

theorem readsBack_eq_true_iff : readsBack code d = true ↔ p.codeOf d.value = code := by
  rw [readsBack, decide_eq_true_iff, ofDecimal_eq_finite_iff]

end Binary

end Metrology
