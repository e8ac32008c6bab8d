import Mathlib.Analysis.SpecialFunctions.Log.Base
import Metrology.Proofs.NaturalLogarithm

/-!
The common logarithm in double precision. Its rounding errors and those of its constants add up to
a small multiple of `2 ^ -53`, as `abs_common_sub_logb_le` says, and between two powers of two it
is monotone.
-/

namespace Metrology

namespace Logarithm

open Real
open Precision (rounded)

section Constants

theorem unity_eq : unity = 2 ^ 256 := by
  norm_num [unity, twoPow, scale]

theorem log_bounds_of_fixed {num den n : Nat} (hfixed : fixed num den = n) (hden : 0 < den)
    (h : den ≤ num) (h' : num ≤ 2 * den) :
    (n : ℝ) / 2 ^ 256 ≤ log (num / den) ∧ log (num / den) ≤ (n + 577) / 2 ^ 256 := by
  obtain ⟨hle, hge⟩ := fixed_bounds (by omega) hden h' (by omega)
  have hlog : 0 ≤ log ((num : ℝ) / den) :=
    log_nonneg ((one_le_div (Nat.cast_pos.mpr hden)).mpr (Nat.cast_le.mpr h))
  rw [hfixed, abs_of_nonneg hlog, unity_eq] at hle hge
  rw [div_le_iff₀ (by positivity), le_div_iff₀ (by positivity)]
  constructor <;> linarith

theorem log_two_bounds :
    80260960185991308862233904206310070533990667611589946606122867505419956976098 / 2 ^ 256 ≤
      log 2 ∧
    log 2 ≤
      80260960185991308862233904206310070533990667611589946606122867505419956976675 /
        2 ^ 256 := by
  have hfixed : fixed 2 1 =
      80260960185991308862233904206310070533990667611589946606122867505419956976098 := by
    decide +kernel
  have h := log_bounds_of_fixed hfixed (by norm_num) (by norm_num) (by norm_num)
  norm_num at h ⊢
  exact h

theorem log_ten_bounds :
    266621138564480548222253459415182587429914225440519472036001743423645469947072 / 2 ^ 256 ≤
      log 10 ∧
    log 10 ≤
      266621138564480548222253459415182587429914225440519472036001743423645469949380 /
        2 ^ 256 := by
  have hfixed : fixed 5 4 =
      25838258006506621635551746796252375827942222605749632217633140907385599018778 := by
    decide +kernel
  have h := log_bounds_of_fixed hfixed (by norm_num) (by norm_num) (by norm_num)
  have htwo := log_two_bounds
  have hten : log 10 = 3 * log 2 + log (5 / 4) := by
    rw [← log_rpow (by norm_num), ← log_mul (by norm_num) (by norm_num)]
    norm_num
  rw [hten]
  norm_num at h htwo ⊢
  constructor <;> linarith

/-- The part of `log10 2` with few digits. -/
def highPart : ℚ :=
  661971961083 / 2 ^ 41

def lowPart : ℚ :=
  0x19fef311f12b36 / 2 ^ 94

/-- The common logarithm of the base of the natural one. -/
def modulus : ℚ :=
  0x1bcb7b1526e50e / 2 ^ 54

theorem toRat?_high : high.toRat? = some highPart := by
  decide +kernel

theorem toRat?_low : low.toRat? = some lowPart := by
  decide +kernel

theorem toRat?_perNatural : perNatural.toRat? = some modulus := by
  decide +kernel

theorem abs_parts_sub_le : |(highPart : ℝ) + lowPart - logb 10 2| ≤ 1 / 2 ^ 90 := by
  obtain ⟨htwo, htwo'⟩ := log_two_bounds
  obtain ⟨hten, hten'⟩ := log_ten_bounds
  have hpos : 0 < log 10 := log_pos (by norm_num)
  have hdiff : (highPart : ℝ) + lowPart - logb 10 2 =
      ((highPart + lowPart) * log 10 - log 2) / log 10 := by
    rw [← log_div_log]
    field_simp
  rw [hdiff, abs_div, abs_of_pos hpos, div_le_iff₀ hpos, abs_le]
  unfold highPart lowPart
  norm_num at htwo htwo' hten hten' ⊢
  constructor <;> linarith

theorem abs_modulus_sub_le : |(modulus : ℝ) - 1 / log 10| ≤ 1 / 2 ^ 55 := by
  obtain ⟨hten, hten'⟩ := log_ten_bounds
  have hpos : 0 < log 10 := log_pos (by norm_num)
  have hdiff : (modulus : ℝ) - 1 / log 10 = (modulus * log 10 - 1) / log 10 := by
    field_simp
  rw [hdiff, abs_div, abs_of_pos hpos, div_le_iff₀ hpos, abs_le]
  unfold modulus
  norm_num at hten hten' ⊢
  constructor <;> linarith

end Constants

section Error

/-- The error of one rounding; what is below the normal range is negligible here. -/
theorem abs_rounded_double_sub_le (q : ℚ) :
    |(rounded .double q : ℝ) - q| ≤ |(q : ℝ)| / 2 ^ 53 + 1 / 2 ^ 200 := by
  have h := Precision.double.abs_rounded_sub_le q
  have htiny : (1 : ℚ) / 2 ^ (Precision.double.places + 1) ≤ 1 / 2 ^ 200 :=
    one_div_le_one_div_of_le (by positivity) (pow_le_pow_right₀ (by norm_num) (by decide))
  have hsum : |rounded .double q - q| ≤ |q| / 2 ^ 53 + 1 / 2 ^ 200 :=
    h.trans (add_le_add le_rfl htiny)
  have hcast := (Rat.cast_le (K := ℝ)).mpr hsum
  push_cast at hcast
  exact hcast

theorem abs_le_add_of_abs_sub_le {a b c e : ℝ} (h : |a - b| ≤ e) (hb : |b| ≤ c) :
    |a| ≤ c + e := by
  have htriangle := abs_sub_abs_le_abs_sub a b
  linarith

variable {y M N m P A S L lambda mu : ℝ}

theorem abs_modulus_le : |(modulus : ℝ)| ≤ 435 / 1000 := by
  norm_num [modulus]

theorem abs_lowPart_le : |(lowPart : ℝ)| ≤ 1 / 2 ^ 41 := by
  norm_num [lowPart]

theorem abs_highPart_le : |(highPart : ℝ)| ≤ 302 / 1000 := by
  norm_num [highPart]

/-- The errors up to the product with `log10 e`. -/
theorem product_error (hM : |M| ≤ 7 / 10) (hN : |N - M| ≤ 1 / 2 ^ 200)
    (hm : |m - N| ≤ |N| / 2 ^ 53 + 1 / 2 ^ 200) (hmu : |modulus - mu| ≤ 1 / 2 ^ 55)
    (hP : |P - modulus * m| ≤ |modulus * m| / 2 ^ 53 + 1 / 2 ^ 200) :
    |P - mu * M| ≤ 8 / 10 / 2 ^ 53 ∧ |P| ≤ 31 / 100 := by
  have hNabs := abs_le_add_of_abs_sub_le hN hM
  have hmM : |m - M| ≤ 71 / 100 / 2 ^ 53 := by
    have htriangle := abs_sub_le m N M
    linarith
  have hmabs : |m| ≤ 701 / 1000 := by
    have h := abs_le_add_of_abs_sub_le hmM hM
    linarith
  have hproduct : |modulus * m| ≤ 435 / 1000 * (701 / 1000) := by
    rw [abs_mul]
    exact mul_le_mul abs_modulus_le hmabs (abs_nonneg m) (by norm_num)
  have hexact : |modulus * m - mu * M| ≤ 49 / 100 / 2 ^ 53 := by
    have hsplit : (modulus : ℝ) * m - mu * M = (modulus - mu) * M + modulus * (m - M) := by
      ring
    have hfirst : |(modulus - mu) * M| ≤ 1 / 2 ^ 55 * (7 / 10) := by
      rw [abs_mul]
      exact mul_le_mul hmu hM (abs_nonneg M) (by positivity)
    have hsecond : |modulus * (m - M)| ≤ 435 / 1000 * (71 / 100 / 2 ^ 53) := by
      rw [abs_mul]
      exact mul_le_mul abs_modulus_le hmM (abs_nonneg _) (by norm_num)
    rw [hsplit]
    refine (abs_add_le _ _).trans ?_
    linarith
  constructor
  · have htriangle := abs_sub_le P (modulus * m) (mu * M)
    linarith
  · have h := abs_le_add_of_abs_sub_le hP hproduct
    linarith

/-- The errors of the product with the low part of `log10 2`. -/
theorem low_error (hy : |y| ≤ 1074)
    (hA : |A - y * lowPart| ≤ |y * lowPart| / 2 ^ 53 + 1 / 2 ^ 200) :
    |A - y * lowPart| ≤ 1 / 100 / 2 ^ 53 ∧ |A| ≤ 1 / 100 := by
  have hproduct : |y * lowPart| ≤ 1074 * (1 / 2 ^ 41) := by
    rw [abs_mul]
    exact mul_le_mul hy abs_lowPart_le (abs_nonneg _) (by norm_num)
  constructor
  · linarith
  · have h := abs_le_add_of_abs_sub_le hA hproduct
    linarith

/-- The sum of the errors, for a logarithm `y * log10 2 + log10 e * M` that is computed as
`(y * low + per * m) + y * high`. -/
theorem error_budget (hy : |y| ≤ 1074) (hM : |M| ≤ 7 / 10) (hN : |N - M| ≤ 1 / 2 ^ 200)
    (hm : |m - N| ≤ |N| / 2 ^ 53 + 1 / 2 ^ 200) (hmu : |modulus - mu| ≤ 1 / 2 ^ 55)
    (hP : |P - modulus * m| ≤ |modulus * m| / 2 ^ 53 + 1 / 2 ^ 200)
    (hlambda : |highPart + lowPart - lambda| ≤ 1 / 2 ^ 90)
    (hA : |A - y * lowPart| ≤ |y * lowPart| / 2 ^ 53 + 1 / 2 ^ 200)
    (hS : |S - (A + P)| ≤ |A + P| / 2 ^ 53 + 1 / 2 ^ 200)
    (hL : |L - (S + y * highPart)| ≤ |S + y * highPart| / 2 ^ 53 + 1 / 2 ^ 200) :
    |L - (y * lambda + mu * M)| ≤ (|y| / 3 + 2) / 2 ^ 53 := by
  obtain ⟨hPM, hPabs⟩ := product_error hM hN hm hmu hP
  obtain ⟨hAlow, hAabs⟩ := low_error hy hA
  have hAP : |A + P| ≤ 32 / 100 := (abs_add_le A P).trans (by linarith)
  have hSabs : |S| ≤ 33 / 100 := by
    have h := abs_le_add_of_abs_sub_le hS hAP
    linarith
  have hyhigh : |y * highPart| ≤ |y| * (302 / 1000) := by
    rw [abs_mul]
    exact mul_le_mul_of_nonneg_left abs_highPart_le (abs_nonneg y)
  have hSy : |S + y * highPart| ≤ 33 / 100 + |y| * (302 / 1000) :=
    (abs_add_le _ _).trans (add_le_add hSabs hyhigh)
  have hylambda : |y * (highPart + lowPart - lambda)| ≤ 1074 * (1 / 2 ^ 90) := by
    rw [abs_mul]
    exact mul_le_mul hy hlambda (abs_nonneg _) (by norm_num)
  have hsum : L - (y * lambda + mu * M) = (L - (S + y * highPart)) + (S - (A + P)) +
      (A - y * lowPart) + (P - mu * M) + y * (highPart + lowPart - lambda) := by
    ring
  have htriangle : |L - (y * lambda + mu * M)| ≤ |L - (S + y * highPart)| + |S - (A + P)| +
      |A - y * lowPart| + |P - mu * M| + |y * (highPart + lowPart - lambda)| := by
    rw [hsum]
    refine (abs_add_le _ _).trans (add_le_add_left ?_ _)
    refine (abs_add_le _ _).trans (add_le_add_left ?_ _)
    exact abs_add_three _ _ _
  have hy0 := abs_nonneg y
  linarith

end Error

section Value

variable {u : Nat}

/-- The shift that brings the factor of a number below one into `[1/2, 1)`. -/
def shift (u : Nat) : Nat :=
  if (u.log2 : Int) - (Precision.places .double : Nat) < 0 then 1 else 0

/-- The exponent of two in a number of units. -/
def exponent (u : Nat) : Int :=
  (u.log2 : Int) - (Precision.places .double : Nat) + (shift u : Nat)

/-- The denominator of the factor beside the power of two. -/
def denominator (u : Nat) : Nat :=
  twoPow (u.log2 + shift u)

theorem ofUnits_eq (u : Nat) :
    ofUnits u = (((Binary.ofInt (exponent u)).mul low).add
      (perNatural.mul (nearest u (denominator u)))).add ((Binary.ofInt (exponent u)).mul high) :=
  rfl

/-- The common logarithm as the exact steps, each of them rounded. -/
def common (u : Nat) : ℚ :=
  rounded .double (rounded .double (rounded .double (exponent u * lowPart) +
    rounded .double (modulus * rounded .double (natural u (denominator u)))) +
      exponent u * highPart)

theorem denominator_pos (u : Nat) : 0 < denominator u :=
  Nat.two_pow_pos _

theorem denominator_bounds (hu : 0 < u) : u ≤ 2 * denominator u ∧ denominator u ≤ 2 * u := by
  have hlower : 2 ^ u.log2 ≤ u := Nat.log2_self_le hu.ne'
  have hupper : u < 2 ^ (u.log2 + 1) := Nat.lt_log2_self
  have hdenominator : denominator u = 2 ^ (u.log2 + shift u) := rfl
  unfold shift at hdenominator
  split at hdenominator
  · rw [Nat.pow_succ] at hupper hdenominator
    omega
  · rw [Nat.pow_succ] at hupper
    rw [Nat.add_zero] at hdenominator
    omega

theorem abs_log_factor_le (hu : 0 < u) : |log ((u : ℝ) / denominator u)| ≤ 7 / 10 := by
  obtain ⟨h, h'⟩ := denominator_bounds hu
  have hu' : (0 : ℝ) < u := Nat.cast_pos.mpr hu
  have hden : (0 : ℝ) < denominator u := Nat.cast_pos.mpr (denominator_pos u)
  have hlower : (1 / 2 : ℝ) ≤ u / denominator u := by
    rw [div_le_div_iff₀ two_pos hden]
    exact_mod_cast (by omega : 1 * denominator u ≤ u * 2)
  have hupper : (u : ℝ) / denominator u ≤ 2 := by
    rw [div_le_iff₀ hden]
    exact_mod_cast h
  have htwo : log 2 ≤ 7 / 10 := log_two_bounds.2.trans (by norm_num)
  have hhalf : log (1 / 2) = -log 2 := by
    rw [one_div, log_inv]
  rw [abs_le]
  constructor
  · have := log_le_log (by norm_num) hlower
    linarith
  · have := log_le_log (by positivity) hupper
    linarith

theorem abs_natural_sub_le (hu : 0 < u) :
    |(natural u (denominator u) : ℝ) - log ((u : ℝ) / denominator u)| ≤ 1 / 2 ^ 200 := by
  obtain ⟨h, h'⟩ := denominator_bounds hu
  refine (abs_natural_sub_log_le hu (denominator_pos u) h h').trans ?_
  rw [unity_eq]
  norm_num

theorem abs_natural_le (hu : 0 < u) : |natural u (denominator u)| ≤ 1 := by
  have h := abs_le_add_of_abs_sub_le (abs_natural_sub_le hu) (abs_log_factor_le hu)
  have hreal : |(natural u (denominator u) : ℝ)| ≤ 1 := h.trans (by norm_num)
  exact_mod_cast hreal

theorem exponent_bounds (hlog : u.log2 ≤ 2097) : -1074 ≤ exponent u ∧ exponent u ≤ 1074 := by
  have hplaces : (Precision.places .double : Nat) = 1074 := rfl
  unfold exponent shift
  rw [hplaces]
  split <;> omega

theorem abs_exponent_le (hlog : u.log2 ≤ 2097) : |(exponent u : ℚ)| ≤ 1074 := by
  have h : |exponent u| ≤ 1074 := abs_le.mpr (exponent_bounds hlog)
  exact_mod_cast h

theorem rounded_exponent (hlog : u.log2 ≤ 2097) : rounded .double (exponent u) = exponent u := by
  apply Precision.rounded_intCast
  have h := exponent_bounds hlog
  have hbits : 2 ^ (Precision.fractionBits .double + 1) = 9007199254740992 := by decide
  omega

/-- The product with the high part is exact. -/
theorem rounded_exponent_mul_high (hlog : u.log2 ≤ 2097) :
    rounded .double (exponent u * highPart) = exponent u * highPart := by
  have hm : (exponent u * 661971961083).natAbs < 2 ^ (Precision.fractionBits .double + 1) := by
    have h := exponent_bounds hlog
    have hbits : 2 ^ (Precision.fractionBits .double + 1) = 9007199254740992 := by decide
    omega
  have hvalue : ((exponent u * 661971961083 : Int) : ℚ) / 2 ^ 41 = exponent u * highPart := by
    rw [highPart, Int.cast_mul]
    push_cast
    ring
  rw [← hvalue]
  exact Precision.rounded_div_two_pow _ hm (by decide)

theorem le_greatest {q : ℚ} (h : q ≤ 2 ^ 20) : q ≤ Precision.greatest .double :=
  (h.trans (pow_le_pow_right₀ (by norm_num) (by norm_num))).trans
    Precision.two_pow_le_greatest_double

theorem toRat?_nearest (hu : 0 < u) :
    (nearest u (denominator u)).toRat? = some (rounded .double (natural u (denominator u))) := by
  refine Binary.toRat?_round _ _ (Nat.two_pow_pos scale) ?_
    (le_greatest ((abs_natural_le hu).trans (by norm_num)))
  unfold natural
  generalize fixed u (denominator u) = n
  rw [Nat.cast_mul, twoPow_eq Precision.double.places, Nat.cast_pow, Nat.cast_ofNat,
    mul_div_right_comm, mul_div_cancel_right₀ _ (by positivity)]
  rfl

/-- Rounding keeps a bound that is a power of two. -/
theorem abs_rounded_le_two_pow {q : ℚ} (n : Nat) (h : |q| ≤ 2 ^ n) :
    |rounded .double q| ≤ 2 ^ n :=
  Precision.abs_rounded_le (Precision.rounded_two_pow _ n) h

theorem toRat?_ofUnits (hu : 0 < u) (hlog : u.log2 ≤ 2097) :
    (ofUnits u).toRat? = some (common u) := by
  have hexponent := abs_exponent_le hlog
  have hy : (Binary.ofInt (exponent u) : Binary .double).toRat? = some (exponent u : ℚ) := by
    rw [Binary.toRat?_ofInt _ (le_greatest (hexponent.trans (by norm_num))),
      rounded_exponent hlog]
  have hhigh : |(exponent u : ℚ) * highPart| ≤ 2 ^ 11 := by
    rw [abs_mul]
    calc |(exponent u : ℚ)| * |highPart| ≤ 1074 * 1 :=
          mul_le_mul hexponent (by norm_num [highPart]) (abs_nonneg _) (by norm_num)
      _ ≤ 2 ^ 11 := by norm_num
  have hlow : |(exponent u : ℚ) * lowPart| ≤ 2 ^ 0 := by
    rw [abs_mul]
    calc |(exponent u : ℚ)| * |lowPart| ≤ 1074 * (1 / 2 ^ 41) :=
          mul_le_mul hexponent (by norm_num [lowPart]) (abs_nonneg _) (by norm_num)
      _ ≤ 2 ^ 0 := by norm_num
  have hnatural := abs_rounded_le_two_pow 0 (by simpa using abs_natural_le hu)
  have hproduct : |modulus * rounded .double (natural u (denominator u))| ≤ 2 ^ 0 := by
    rw [abs_mul]
    calc |modulus| * |rounded .double (natural u (denominator u))| ≤ 1 * 2 ^ 0 :=
          mul_le_mul (by norm_num [modulus]) hnatural (abs_nonneg _) (by norm_num)
      _ = 2 ^ 0 := one_mul _
  have hlow' := abs_rounded_le_two_pow 0 hlow
  have hproduct' := abs_rounded_le_two_pow 0 hproduct
  have hsum : |rounded .double (exponent u * lowPart) +
      rounded .double (modulus * rounded .double (natural u (denominator u)))| ≤ 2 ^ 1 :=
    (abs_add_le _ _).trans (by linarith)
  have hsum' := abs_rounded_le_two_pow 1 hsum
  have hA := Binary.toRat?_mul hy toRat?_low (le_greatest (hlow.trans (by norm_num)))
  have hP := Binary.toRat?_mul toRat?_perNatural (toRat?_nearest hu)
    (le_greatest (hproduct.trans (by norm_num)))
  have hB := Binary.toRat?_mul hy toRat?_high (le_greatest (hhigh.trans (by norm_num)))
  rw [rounded_exponent_mul_high hlog] at hB
  have hS := Binary.toRat?_add hA hP (le_greatest (hsum.trans (by norm_num)))
  rw [ofUnits_eq, Binary.toRat?_add hS hB (le_greatest ((abs_add_le _ _).trans (by linarith)))]
  rfl

/-- The logarithm of a number of units, from its exponent and factor. -/
theorem logb_units (hu : 0 < u) :
    logb 10 (u / 2 ^ Precision.places .double) =
      exponent u * logb 10 2 + 1 / log 10 * log (u / denominator u) := by
  have hu' : (u : ℝ) ≠ 0 := Nat.cast_ne_zero.mpr hu.ne'
  have hten : log 10 ≠ 0 := (log_pos (by norm_num)).ne'
  have hdenominator : (denominator u : ℝ) = 2 ^ (u.log2 + shift u) := by
    rw [denominator, twoPow_eq, Nat.cast_pow, Nat.cast_ofNat]
  have hexponent : (exponent u : ℝ) = u.log2 - Precision.places .double + shift u := by
    rw [exponent, Int.cast_add, Int.cast_sub, Int.cast_natCast, Int.cast_natCast,
      Int.cast_natCast]
  rw [← log_div_log, ← log_div_log, hdenominator, log_div hu' (by positivity),
    log_div hu' (by positivity), log_pow, log_pow, hexponent]
  push_cast
  field_simp
  ring

theorem abs_common_sub_logb_le (hu : 0 < u) (hlog : u.log2 ≤ 2097) :
    |(common u : ℝ) - logb 10 (u / 2 ^ Precision.places .double)| ≤
      (|(exponent u : ℝ)| / 3 + 2) / 2 ^ 53 := by
  have hexponent : |(exponent u : ℝ)| ≤ 1074 := by exact_mod_cast abs_exponent_le hlog
  rw [logb_units hu]
  have hm := abs_rounded_double_sub_le (natural u (denominator u))
  have hP := abs_rounded_double_sub_le (modulus * rounded .double (natural u (denominator u)))
  have hA := abs_rounded_double_sub_le (exponent u * lowPart)
  have hS := abs_rounded_double_sub_le (rounded .double (exponent u * lowPart) +
    rounded .double (modulus * rounded .double (natural u (denominator u))))
  have hL := abs_rounded_double_sub_le (rounded .double (rounded .double (exponent u * lowPart) +
    rounded .double (modulus * rounded .double (natural u (denominator u)))) +
      exponent u * highPart)
  push_cast at hP hA hS hL
  exact error_budget hexponent (abs_log_factor_le hu) (abs_natural_sub_le hu) hm
    abs_modulus_sub_le
    hP abs_parts_sub_le hA hS hL

/-- Between two powers of two a larger number has no smaller logarithm. -/
theorem common_mono {u v : Nat} (hu : 0 < u) (huv : u ≤ v) (hlog : u.log2 = v.log2) :
    common u ≤ common v := by
  have hshift : shift u = shift v := by
    unfold shift
    rw [hlog]
  have hexponent : exponent u = exponent v := by
    unfold exponent
    rw [hlog, hshift]
  have hdenominator : denominator u = denominator v := by
    unfold denominator
    rw [hlog, hshift]
  have hmono := Precision.double.rounded_mono
  have hnatural : rounded .double (natural u (denominator v)) ≤
      rounded .double (natural v (denominator v)) :=
    hmono (natural_mono hu (denominator_pos v) huv)
  unfold common
  rw [hexponent, hdenominator]
  have hmodulus : (0 : ℚ) ≤ modulus := by norm_num [modulus]
  apply hmono
  gcongr
  apply hmono
  gcongr
  apply hmono
  gcongr

end Value

end Logarithm

end Metrology
