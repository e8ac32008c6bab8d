import Mathlib.Analysis.SpecialFunctions.Pow.Real
import Mathlib.Tactic.IntervalCases
import Metrology.Proofs.CommonLogarithm

/-!
Bounds of the common logarithm of a double. Between two powers of two it is monotone and beyond it
is accurate, so the logarithm of one number bounds those of all numbers above, or below. It is
exact at the powers of ten up to a thousand, so there it tells exactly which numbers are above.
-/

open Real

namespace Metrology

namespace Engineering

def reachCode : Nat :=
  28843068552705523

/-- The least number whose degree is not below `-102`. It is next to `10 ^ -306`. -/
def reach : ℚ :=
  Precision.magnitude .double reachCode

example : reach ≤ 1 / 10 ^ 306 ∧ 1 / 10 ^ 306 ≤ reach * (1 + 1 / 2 ^ 43) := by
  decide +kernel

theorem reach_pos : 0 < reach := by
  decide +kernel

theorem reach_le_iff (code : Nat) :
    reach ≤ Precision.magnitude .double code ↔ reachCode ≤ code := by
  constructor
  · intro h
    by_contra! hlt
    have hunits := Precision.strictMono_units .double hlt
    unfold reach Precision.magnitude at h
    rw [div_le_div_iff_of_pos_right (by positivity), Nat.cast_le] at h
    omega
  · exact Precision.magnitude_mono .double

end Engineering

namespace Logarithm

open Engineering (reach reachCode reach_le_iff)

section Bounds

variable {u v : Nat} {c : ℚ}

theorem logb_two_bounds : (30102 / 100000 : ℝ) ≤ logb 10 2 ∧ logb 10 2 ≤ 30103 / 100000 := by
  obtain ⟨hlower, hupper⟩ := abs_le.mp abs_parts_sub_le
  norm_num [highPart, lowPart] at hlower hupper
  constructor <;> linarith

theorem logb_two_pow_div (n m : Nat) : logb 10 (2 ^ n / 2 ^ m) = (n - m) * logb 10 2 := by
  rw [logb_div (by positivity) (by positivity), logb_pow, logb_pow]
  ring

theorem abs_common_sub_logb_le_of_range (hu : 0 < u) (hlog : u.log2 ≤ 2097) :
    |(common u : ℝ) - logb 10 (u / 2 ^ Precision.places .double)| ≤ 1 / 2 ^ 44 := by
  have hexponent : |(exponent u : ℝ)| ≤ 1074 := by exact_mod_cast abs_exponent_le hlog
  have h := abs_common_sub_logb_le hu hlog
  linarith

theorem log2_le_log2 (huv : u ≤ v) : u.log2 ≤ v.log2 := by
  rw [Nat.log2_eq_log_two, Nat.log2_eq_log_two]
  exact Nat.log_mono_right huv

theorem le_logb_of_two_pow_le {n : Nat} (h : 2 ^ n ≤ u) (d : Nat) :
    (n - d) * logb 10 2 ≤ logb 10 (u / 2 ^ d) := by
  have hcast : (2 : ℝ) ^ n ≤ u := by
    have := Nat.cast_le (α := ℝ) |>.mpr h
    rwa [Nat.cast_pow, Nat.cast_ofNat] at this
  rw [← logb_two_pow_div]
  exact logb_le_logb_of_le (by norm_num) (by positivity) (by gcongr)

theorem logb_le_of_lt_two_pow {n : Nat} (hu : 0 < u) (h : u < 2 ^ n) (d : Nat) :
    logb 10 (u / 2 ^ d) ≤ (n - d) * logb 10 2 := by
  have hu' : (0 : ℝ) < u := Nat.cast_pos.mpr hu
  have hcast : (u : ℝ) ≤ 2 ^ n := by
    have := Nat.cast_le (α := ℝ) |>.mpr h.le
    rwa [Nat.cast_pow, Nat.cast_ofNat] at this
  rw [← logb_two_pow_div]
  exact logb_le_logb_of_le (by norm_num) (by positivity) (by gcongr)

/-- A bound of the logarithm at one number holds above it, if it leaves room at the next power of
two. -/
theorem le_common_of_le (hv : 0 < v) (huv : v ≤ u) (hlog : u.log2 ≤ 2097) (hc : c ≤ common v)
    (hnext : (c : ℝ) + 1 / 2 ^ 44 ≤ ((v.log2 + 1 : ℕ) - Precision.places .double) * logb 10 2) :
    c ≤ common u := by
  have hu : 0 < u := hv.trans_le huv
  rcases (log2_le_log2 huv).eq_or_lt with hbinade | hbinade
  · exact hc.trans (common_mono hv huv hbinade)
  · have hpow : 2 ^ (v.log2 + 1) ≤ u :=
      (Nat.pow_le_pow_right two_pos hbinade).trans (Nat.log2_self_le hu.ne')
    have hlogb := le_logb_of_two_pow_le hpow (Precision.places .double)
    have herror := (abs_le.mp (abs_common_sub_logb_le_of_range hu hlog)).1
    have hreal : (c : ℝ) ≤ common u := by linarith
    exact_mod_cast hreal

theorem common_le_of_le (hu : 0 < u) (huv : u ≤ v) (hlog : u.log2 ≤ 2097) (hc : common v ≤ c)
    (hprevious : (v.log2 - Precision.places .double) * logb 10 2 + 1 / 2 ^ 44 ≤ (c : ℝ)) :
    common u ≤ c := by
  rcases (log2_le_log2 huv).eq_or_lt with hbinade | hbinade
  · exact (common_mono hu huv hbinade).trans hc
  · have hpow : u < 2 ^ v.log2 :=
      Nat.lt_log2_self.trans_le (Nat.pow_le_pow_right two_pos hbinade)
    have hlogb := logb_le_of_lt_two_pow hu hpow (Precision.places .double)
    have herror := (abs_le.mp (abs_common_sub_logb_le_of_range hu hlog)).2
    have hreal : (common u : ℝ) ≤ c := by linarith
    exact_mod_cast hreal

theorem common_pow_ten :
    ∀ j : Nat, j < 4 → common (10 ^ j * 2 ^ Precision.places .double) = j := by
  decide +kernel

theorem log2_pow_ten : ∀ j < 4, (10 ^ j * 2 ^ Precision.places .double).log2 = 1074 + 3 * j := by
  decide +kernel

/-- The logarithm is exact at one, ten, a hundred and a thousand, and so it is on the right side
of them elsewhere. -/
theorem le_common_of_pow_ten_le {j : Nat} (hj : j < 4)
    (h : 10 ^ j * 2 ^ Precision.places .double ≤ u) (hlog : u.log2 ≤ 2097) :
    (j : ℚ) ≤ common u := by
  apply le_common_of_le (by positivity) h hlog (common_pow_ten j hj).ge
  rw [log2_pow_ten j hj, Precision.places]
  have hlogb := logb_two_bounds.1
  push_cast
  interval_cases j <;> norm_num <;> linarith

theorem common_le_zero (hu : 0 < u) (h : u < 2 ^ Precision.places .double) : common u ≤ 0 := by
  have hlast : common (2 ^ Precision.places .double - 1) ≤ 0 := by
    decide +kernel
  have hlog : (2 ^ Precision.places .double - 1).log2 = 1073 := by
    decide +kernel
  have hle : u ≤ 2 ^ Precision.places .double - 1 := Nat.le_sub_one_of_lt h
  apply common_le_of_le hu hle ((log2_le_log2 hle).trans (hlog.le.trans (by norm_num))) hlast
  rw [hlog, Precision.places]
  have hlogb := logb_two_bounds.1
  push_cast
  linarith

theorem common_le_of_le_pow_ten {j : Nat} (hj : j < 4) (hu : 0 < u)
    (h : u ≤ 10 ^ j * 2 ^ Precision.places .double) (hlog : u.log2 ≤ 2097) : common u ≤ j := by
  rcases h.eq_or_lt with heq | hlt
  · rw [heq]
    exact (common_pow_ten j hj).le
  rcases Nat.eq_zero_or_pos j with rfl | hpos
  · simp only [pow_zero, one_mul] at hlt
    exact_mod_cast common_le_zero hu hlt
  · apply common_le_of_le hu h hlog (common_pow_ten j hj).le
    rw [log2_pow_ten j hj, Precision.places]
    have hlogb := logb_two_bounds.2
    push_cast
    interval_cases j <;> norm_num <;> linarith

theorem le_common_of_reach {code : Nat} (h : reachCode ≤ code)
    (hlog : (Precision.units .double code).log2 ≤ 2097) :
    -306 ≤ common (Precision.units .double code) := by
  have hleast : -306 ≤ common (Precision.units .double reachCode) := by
    decide +kernel
  have hbinade : (Precision.units .double reachCode).log2 = 57 := by
    decide +kernel
  have hunits := (Precision.strictMono_units .double).monotone h
  apply le_common_of_le (Nat.pos_of_ne_zero (Binary.units_ne_zero (by decide))) hunits hlog
    hleast
  rw [hbinade, Precision.places]
  push_cast
  linarith [logb_two_bounds.2]

theorem common_le_of_not_reach {code : Nat} (h : code ≤ reachCode - 1)
    (hpos : 0 < Precision.units .double code)
    (hlog : (Precision.units .double code).log2 ≤ 2097) :
    common (Precision.units .double code) ≤ -306 - 1 / 2 ^ 44 := by
  have hgreatest : common (Precision.units .double (reachCode - 1)) ≤ -306 - 1 / 2 ^ 44 := by
    decide +kernel
  have hbinade : (Precision.units .double (reachCode - 1)).log2 = 57 := by
    decide +kernel
  have hunits := (Precision.strictMono_units .double).monotone h
  apply common_le_of_le hpos hunits hlog hgreatest
  rw [hbinade, Precision.places]
  push_cast
  linarith [logb_two_bounds.1]

end Bounds

section Exponential

variable {x e : ℝ} {n : Int}

theorem log_ten_le_three : log 10 ≤ 3 :=
  log_ten_bounds.2.trans (by norm_num)

theorem one_sub_le_ten_rpow (he : 0 ≤ e) : 1 - 3 * e ≤ (10 : ℝ) ^ (-e) := by
  rw [rpow_def_of_pos (by norm_num)]
  have h := add_one_le_exp (log 10 * -e)
  nlinarith [log_ten_le_three]

theorem ten_rpow_le_one_add (he : 0 ≤ e) (hsmall : e ≤ 1 / 12) : (10 : ℝ) ^ e ≤ 1 + 4 * e := by
  have hinverse : (10 : ℝ) ^ e * (10 : ℝ) ^ (-e) = 1 := by
    rw [← rpow_add (by norm_num), add_neg_cancel, rpow_zero]
  have hpos : (0 : ℝ) < (10 : ℝ) ^ e := rpow_pos_of_pos (by norm_num) e
  nlinarith [one_sub_le_ten_rpow he]

theorem pow_ten_le_of_le_logb (hx : 0 < x) (he : 0 ≤ e) (h : n - e ≤ logb 10 x) :
    (10 : ℝ) ^ n * (1 - 3 * e) ≤ x := by
  have hpow : (10 : ℝ) ^ ((n : ℝ) + -e) ≤ x := by
    rw [← le_logb_iff_rpow_le (by norm_num) hx]
    linarith
  rw [rpow_add (by norm_num), rpow_intCast] at hpow
  have hbase := one_sub_le_ten_rpow he
  have hn : (0 : ℝ) < 10 ^ n := by positivity
  nlinarith

theorem le_pow_ten_of_logb_le (hx : 0 < x) (he : 0 ≤ e) (hsmall : e ≤ 1 / 12)
    (h : logb 10 x ≤ n + e) : x ≤ (10 : ℝ) ^ n * (1 + 4 * e) := by
  have hpow : x ≤ (10 : ℝ) ^ ((n : ℝ) + e) := (logb_le_iff_le_rpow (by norm_num) hx).mp h
  rw [rpow_add (by norm_num), rpow_intCast] at hpow
  have hbase := ten_rpow_le_one_add he hsmall
  have hn : (0 : ℝ) < 10 ^ n := by positivity
  nlinarith

end Exponential

section Double

variable {x : Binary .double} {a : ℚ} {i : Nat}

def unitsOf (a : ℚ) : Nat :=
  ⌊|a| * 2 ^ Precision.places .double⌋₊

/-- The common logarithm of a double by its value. -/
def logarithm (a : ℚ) : ℚ :=
  common (unitsOf a)

theorem abs_exponent_le_nine {u : Nat} (hu : 0 < u)
    (hlower : 2 ^ Precision.places .double ≤ 2 * u)
    (hupper : u < 2 ^ (Precision.places .double + 10)) : |exponent u| ≤ 9 := by
  have hlog := (Nat.le_log2 (by omega)).mpr hlower
  rw [Nat.log2_two_mul hu.ne'] at hlog
  have hlog' := (Nat.log2_lt hu.ne').mpr hupper
  rw [abs_le]
  clear hlower hupper
  unfold exponent shift
  split <;> omega

theorem log2_units_le (code : Fin (Precision.count .double)) :
    (Precision.units .double code).log2 ≤ 2097 := by
  have hgreatest : (Precision.units .double (Precision.count .double - 1)).log2 = 2097 := by
    decide +kernel
  have hle : code.val ≤ Precision.count .double - 1 := Nat.le_sub_one_of_lt code.isLt
  have := log2_le_log2 ((Precision.strictMono_units .double).monotone hle)
  omega

theorem unitsOf_magnitude (negative : Bool) (code : Nat) :
    unitsOf (Binary.withSign negative (Precision.magnitude .double code)) =
      Precision.units .double code := by
  rw [unitsOf, Binary.abs_withSign, abs_of_nonneg (Precision.magnitude_nonneg _ _),
    Precision.magnitude, div_mul_cancel₀ _ (by positivity), Nat.floor_natCast]

/-- A number is a whole number of units, and its logarithm is that of the number of units. -/
theorem unitsOf_of_toRat? (hx : x.toRat? = some a) (ha : a ≠ 0) :
    (unitsOf a : ℚ) = |a| * 2 ^ Precision.places .double ∧ 0 < unitsOf a ∧
      (unitsOf a).log2 ≤ 2097 ∧
      x.log10 = ofUnits (unitsOf a) := by
  obtain ⟨negative, code, rfl, rfl⟩ := Binary.exists_finite_of_toRat? hx
  have hcode : code.val ≠ 0 := Binary.code_ne_zero ha
  rw [unitsOf_magnitude]
  refine ⟨?_, Nat.pos_of_ne_zero (Binary.units_ne_zero hcode), log2_units_le code, if_neg hcode⟩
  rw [Binary.abs_withSign, abs_of_nonneg (Precision.magnitude_nonneg _ _), Precision.magnitude,
    div_mul_cancel₀ _ (by positivity)]

theorem toRat?_log10 (hx : x.toRat? = some a) (ha : a ≠ 0) :
    x.log10.toRat? = some (logarithm a) := by
  obtain ⟨-, hpos, hlog, heq⟩ := unitsOf_of_toRat? hx ha
  rw [heq, toRat?_ofUnits hpos hlog]
  rfl

theorem unitsOf_div (hx : x.toRat? = some a) (ha : a ≠ 0) :
    (unitsOf a : ℝ) / 2 ^ Precision.places .double = |(a : ℝ)| := by
  obtain ⟨hunits, -, -, -⟩ := unitsOf_of_toRat? hx ha
  rw [div_eq_iff (by positivity)]
  have := congrArg (Rat.cast (K := ℝ)) hunits
  rwa [Rat.cast_natCast, Rat.cast_mul, Rat.cast_abs, Rat.cast_pow, Rat.cast_ofNat] at this

theorem abs_logarithm_sub_le (hx : x.toRat? = some a) (ha : a ≠ 0) :
    abs ((logarithm a : ℝ) - logb 10 |(a : ℝ)|) ≤ 1 / 2 ^ 44 := by
  obtain ⟨-, hpos, hlog, -⟩ := unitsOf_of_toRat? hx ha
  have h := abs_common_sub_logb_le_of_range hpos hlog
  rwa [unitsOf_div hx ha] at h

/-- Next to one the exponent of two is small and so is the error. -/
theorem abs_logarithm_sub_le_of_lt (hx : x.toRat? = some a) (hlower : 1 / 2 ≤ |a|)
    (hupper : |a| < 1024) : abs ((logarithm a : ℝ) - logb 10 |(a : ℝ)|) ≤ 5 / 2 ^ 53 := by
  have ha : a ≠ 0 := abs_pos.mp (by linarith)
  obtain ⟨hunits, hpos, hlog, -⟩ := unitsOf_of_toRat? hx ha
  have h := abs_common_sub_logb_le hpos hlog
  rw [unitsOf_div hx ha] at h
  have hexponent : |(exponent (unitsOf a) : ℝ)| ≤ 9 := by
    have hpow : (0 : ℚ) < 2 ^ Precision.places .double := by positivity
    refine mod_cast abs_exponent_le_nine hpos ?_ ?_
    · rw [← Nat.cast_le (α := ℚ), Nat.cast_mul, hunits, Nat.cast_pow, Nat.cast_ofNat]
      nlinarith
    · rw [← Nat.cast_lt (α := ℚ), hunits, Nat.cast_pow, Nat.cast_ofNat, pow_add]
      nlinarith
  exact h.trans (by linarith)

theorem abs_logb_le (hx : x.toRat? = some a) (ha : a ≠ 0) :
    -3234 / 10 ≤ logb 10 |(a : ℝ)| ∧ logb 10 |(a : ℝ)| ≤ 3083 / 10 := by
  obtain ⟨-, hpos, hlog, -⟩ := unitsOf_of_toRat? hx ha
  have hlower := le_logb_of_two_pow_le (n := 0) hpos (Precision.places .double)
  have hupper := logb_le_of_lt_two_pow hpos Nat.lt_log2_self (Precision.places .double)
  rw [unitsOf_div hx ha, Precision.places] at hlower hupper
  have hlog' : ((unitsOf a).log2 : ℝ) ≤ 2097 := by exact_mod_cast hlog
  obtain ⟨h, h'⟩ := logb_two_bounds
  push_cast at hlower hupper
  constructor
  · linarith
  · nlinarith

theorem cast_pow_ten_units (i : Nat) :
    ((10 ^ i * 2 ^ Precision.places .double : ℕ) : ℚ) =
      10 ^ i * 2 ^ Precision.places .double := by
  rw [Nat.cast_mul, Nat.cast_pow, Nat.cast_pow, Nat.cast_ofNat, Nat.cast_ofNat]

theorem le_logarithm_of_pow_ten_le (hx : x.toRat? = some a) (hi : i < 4) (h : 10 ^ i ≤ |a|) :
    (i : ℚ) ≤ logarithm a := by
  have ha : a ≠ 0 := abs_pos.mp (lt_of_lt_of_le (by positivity) h)
  obtain ⟨hunits, -, hlog, -⟩ := unitsOf_of_toRat? hx ha
  apply le_common_of_pow_ten_le hi _ hlog
  rw [← Nat.cast_le (α := ℚ), hunits, cast_pow_ten_units]
  gcongr

theorem logarithm_le_of_le_pow_ten (hx : x.toRat? = some a) (ha : a ≠ 0) (hi : i < 4)
    (h : |a| ≤ 10 ^ i) : logarithm a ≤ i := by
  obtain ⟨hunits, hpos, hlog, -⟩ := unitsOf_of_toRat? hx ha
  apply common_le_of_le_pow_ten hi hpos _ hlog
  rw [← Nat.cast_le (α := ℚ), hunits, cast_pow_ten_units]
  gcongr

theorem le_logarithm_of_reach (hx : x.toRat? = some a) (ha : a ≠ 0) (h : reach ≤ |a|) :
    -306 ≤ logarithm a := by
  obtain ⟨-, -, hlog, -⟩ := unitsOf_of_toRat? hx ha
  rw [logarithm]
  obtain ⟨negative, code, rfl, rfl⟩ := Binary.exists_finite_of_toRat? hx
  rw [Binary.abs_withSign, abs_of_nonneg (Precision.magnitude_nonneg _ _), reach_le_iff] at h
  rw [unitsOf_magnitude] at hlog ⊢
  exact le_common_of_reach h hlog

theorem logarithm_le_of_lt_reach (hx : x.toRat? = some a) (ha : a ≠ 0) (h : |a| < reach) :
    logarithm a ≤ -306 - 1 / 2 ^ 44 := by
  obtain ⟨-, hpos, hlog, -⟩ := unitsOf_of_toRat? hx ha
  rw [logarithm]
  obtain ⟨negative, code, rfl, rfl⟩ := Binary.exists_finite_of_toRat? hx
  rw [Binary.abs_withSign, abs_of_nonneg (Precision.magnitude_nonneg _ _), ← not_le, reach_le_iff,
    not_le] at h
  rw [unitsOf_magnitude] at hpos hlog ⊢
  exact common_le_of_not_reach (Nat.le_sub_one_of_lt h) hpos hlog

/-- What is used of a common logarithm `l` of `a`: how far it is off, and on which side of the
powers of ten up to a thousand it is, and of `-306`. How it is computed makes no difference beyond
that. -/
structure IsLogarithm (a l : ℚ) : Prop where
  error : abs ((l : ℝ) - logb 10 |(a : ℝ)|) ≤ 1 / 2 ^ 44
  error_of_lt : 1 / 2 ≤ |a| → |a| < 1024 → abs ((l : ℝ) - logb 10 |(a : ℝ)|) ≤ 5 / 2 ^ 53
  le_of_pow_ten_le : ∀ {i : Nat}, i < 4 → 10 ^ i ≤ |a| → (i : ℚ) ≤ l
  of_le_pow_ten : ∀ {i : Nat}, i < 4 → |a| ≤ 10 ^ i → l ≤ i
  le_of_reach : reach ≤ |a| → -306 ≤ l
  of_lt_reach : |a| < reach → l ≤ -306 - 1 / 2 ^ 44

theorem isLogarithm (hx : x.toRat? = some a) (ha : a ≠ 0) : IsLogarithm a (logarithm a) where
  error := abs_logarithm_sub_le hx ha
  error_of_lt := abs_logarithm_sub_le_of_lt hx
  le_of_pow_ten_le := le_logarithm_of_pow_ten_le hx
  of_le_pow_ten := logarithm_le_of_le_pow_ten hx ha
  le_of_reach := le_logarithm_of_reach hx ha
  of_lt_reach := logarithm_le_of_lt_reach hx ha

namespace IsLogarithm

variable {l : ℚ}

theorem abs_le_of_toRat? (h : IsLogarithm a l) (hx : x.toRat? = some a) (ha : a ≠ 0) :
    |l| ≤ 324 := by
  have herror := h.error
  obtain ⟨hlower, hupper⟩ := abs_logb_le hx ha
  have hreal : |(l : ℝ)| ≤ 324 := by
    rw [abs_le] at herror ⊢
    constructor <;> linarith
  exact_mod_cast hreal

theorem margin_le (hl : IsLogarithm a l) (hlower : 1 / 2 ≤ |a|) (hupper : |a| < 1024)
    (h : 10 ^ i * (1 + 1 / 2 ^ 40) ≤ |a|) : i + 1 / 2 ^ 43 ≤ l := by
  by_contra! hlt
  have herror := (abs_le.mp (hl.error_of_lt hlower hupper)).1
  have hlt' := (Rat.cast_lt (K := ℝ)).mpr hlt
  have hpos : (0 : ℝ) < |(a : ℝ)| := by
    have : (0 : ℚ) < |a| := by linarith
    exact_mod_cast this
  have hle :=
    le_pow_ten_of_logb_le (n := i) (e := 1 / 2 ^ 43 + 5 / 2 ^ 53) hpos (by norm_num) (by norm_num)
      (by push_cast at hlt' ⊢; linarith)
  have h' := (Rat.cast_le (K := ℝ)).mpr h
  have hpow : (0 : ℝ) < 10 ^ i := by positivity
  rw [zpow_natCast] at hle
  push_cast at h'
  nlinarith

theorem le_margin (hl : IsLogarithm a l) (hlower : 1 / 2 ≤ |a|) (hupper : |a| < 1024)
    (h : |a| ≤ 10 ^ i * (1 - 1 / 2 ^ 40)) : l ≤ i - 1 / 2 ^ 43 := by
  by_contra! hlt
  have herror := (abs_le.mp (hl.error_of_lt hlower hupper)).2
  have hlt' := (Rat.cast_lt (K := ℝ)).mpr hlt
  have hpos : (0 : ℝ) < |(a : ℝ)| := by
    have : (0 : ℚ) < |a| := by linarith
    exact_mod_cast this
  have hle := pow_ten_le_of_le_logb (n := i) (e := 1 / 2 ^ 43 + 5 / 2 ^ 53) hpos (by norm_num)
    (by push_cast at hlt' ⊢; linarith)
  have h' := (Rat.cast_le (K := ℝ)).mpr h
  have hpow : (0 : ℝ) < 10 ^ i := by positivity
  rw [zpow_natCast] at hle
  push_cast at h'
  nlinarith

theorem neg_one_add_margin_le (hl : IsLogarithm a l) (hlower : 1 / 2 ≤ |a|) :
    -1 + 1 / 2 ^ 43 ≤ l := by
  have herror := (abs_le.mp hl.error).1
  have hlower' : (1 / 2 : ℝ) ≤ |(a : ℝ)| := by
    have := (Rat.cast_le (K := ℝ)).mpr hlower
    push_cast at this
    exact this
  have hlogb := logb_le_logb_of_le (b := 10) (by norm_num) (by norm_num) hlower'
  rw [one_div, logb_inv] at hlogb
  rw [← Rat.cast_le (K := ℝ)]
  push_cast
  linarith [logb_two_bounds.2]

end IsLogarithm

end Double

end Logarithm

end Metrology
