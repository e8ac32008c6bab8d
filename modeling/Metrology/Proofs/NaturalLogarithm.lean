import Mathlib.Analysis.SpecialFunctions.Log.Deriv
import Metrology.Binary.Logarithm
import Metrology.Proofs.Rounding

namespace Metrology

namespace Logarithm

open Finset Real

/-- The number one in fixed point. -/
noncomputable def unity : ℝ :=
  (twoPow scale : ℕ)

theorem unity_pos : 0 < unity := by
  exact Nat.cast_pos.mpr (Nat.two_pow_pos scale)

section Series

variable {t : ℝ} {square term odd : Nat}

/-- The terms of the series from `t ^ odd / odd` on. -/
noncomputable def partialSum (t : ℝ) (terms odd : Nat) : ℝ :=
  ∑ i ∈ range terms, t ^ (odd + 2 * i) / (odd + 2 * i : ℕ)

theorem partialSum_succ (t : ℝ) (terms odd : Nat) :
    partialSum t (terms + 1) odd = t ^ odd / odd + partialSum t terms (odd + 2) := by
  unfold partialSum
  rw [sum_range_succ', add_comm]
  congr 1
  refine sum_congr rfl fun i _ => ?_
  rw [show odd + 2 * (i + 1) = odd + 2 + 2 * i by ring]

/-- A power of the argument in fixed point, at most two units short. -/
structure Approximates (t : ℝ) (odd term : Nat) : Prop where
  le : (term : ℝ) ≤ unity * t ^ odd
  ge : unity * t ^ odd - 2 ≤ (term : ℝ)

/-- The square of the argument in fixed point. -/
structure ApproximatesSquare (t : ℝ) (square : Nat) : Prop where
  le : (square : ℝ) ≤ unity * t ^ 2
  ge : unity * t ^ 2 - 5 / 3 ≤ (square : ℝ)

theorem sub_one_le_cast_div (m n : Nat) : (m : ℝ) / n - 1 ≤ ((m / n : ℕ) : ℝ) := by
  rw [← Nat.floor_div_eq_div (K := ℝ)]
  exact (Nat.sub_one_lt_floor _).le

/-- One step of the series: the next power is again at most two units short. -/
theorem Approximates.next (ht : 0 ≤ t) (ht' : t ≤ 1 / 3) (hodd : 1 ≤ odd)
    (hsquare : ApproximatesSquare t square) (hterm : Approximates t odd term) :
    Approximates t (odd + 2) (term * square / twoPow scale) := by
  have hunity := unity_pos
  have hpower : t ^ odd ≤ 1 / 3 := by
    calc t ^ odd ≤ t ^ 1 := pow_le_pow_of_le_one ht (by linarith) hodd
      _ ≤ 1 / 3 := by rwa [pow_one]
  have hpower0 : 0 ≤ t ^ odd := pow_nonneg ht odd
  have hsq : t ^ 2 ≤ 1 / 9 := by nlinarith
  constructor
  · calc ((term * square / twoPow scale : ℕ) : ℝ)
        ≤ ((term * square : ℕ) : ℝ) / (twoPow scale : ℕ) := Nat.cast_div_le
      _ = (term : ℝ) * square / unity := by rw [Nat.cast_mul, unity]
      _ ≤ unity * t ^ odd * (unity * t ^ 2) / unity := by
          gcongr
          · exact hterm.le
          · exact hsquare.le
      _ = unity * t ^ (odd + 2) := by
          rw [pow_add]
          field_simp
  · have hfloor := sub_one_le_cast_div (term * square) (twoPow scale)
    rw [Nat.cast_mul, ← unity] at hfloor
    -- The product of the two errors is not negative, so only the mixed terms are lost.
    have hproduct : unity * (unity * t ^ (odd + 2) - 2 * t ^ 2 - 5 / 3 * t ^ odd) ≤
        (term : ℝ) * square := by
      have hmixed := mul_nonneg (sub_nonneg.mpr hterm.le) (sub_nonneg.mpr hsquare.le)
      have hfirst := mul_le_mul_of_nonneg_right hterm.ge (by positivity : 0 ≤ unity * t ^ 2)
      have hsecond := mul_le_mul_of_nonneg_left hsquare.ge (by positivity : 0 ≤ unity * t ^ odd)
      rw [pow_add]
      nlinarith
    have hquotient : unity * t ^ (odd + 2) - 2 * t ^ 2 - 5 / 3 * t ^ odd ≤
        (term : ℝ) * square / unity := by
      rw [le_div_iff₀ hunity]
      linarith
    linarith

/-- The whole series: at most three units are lost for every term. -/
theorem series_bounds (ht : 0 ≤ t) (ht' : t ≤ 1 / 3) (hsquare : ApproximatesSquare t square)
    (terms : Nat) (hodd : 1 ≤ odd) (hterm : Approximates t odd term) :
    (series square terms odd term : ℝ) ≤ unity * partialSum t terms odd ∧
      unity * partialSum t terms odd - 3 * terms ≤ (series square terms odd term : ℝ) := by
  induction terms generalizing odd term with
  | zero => simp [series, partialSum]
  | succ terms ih =>
      obtain ⟨hle, hge⟩ := ih (by omega : 1 ≤ odd + 2) (hterm.next ht ht' hodd hsquare)
      have hodd' : (1 : ℝ) ≤ odd := by exact_mod_cast hodd
      have hunity := unity_pos
      have hfirst : ((term / odd : ℕ) : ℝ) ≤ unity * (t ^ odd / odd) := by
        calc ((term / odd : ℕ) : ℝ) ≤ (term : ℝ) / odd := Nat.cast_div_le
          _ ≤ unity * t ^ odd / odd := by gcongr; exact hterm.le
          _ = unity * (t ^ odd / odd) := by ring
      have hfirst' : unity * (t ^ odd / odd) - 3 ≤ ((term / odd : ℕ) : ℝ) := by
        have hfloor := sub_one_le_cast_div term odd
        have hdiv : (unity * t ^ odd - 2) / odd ≤ (term : ℝ) / odd := by
          gcongr
          exact hterm.ge
        have htwo : (2 : ℝ) / odd ≤ 2 := div_le_self (by norm_num) hodd'
        have hsplit : (unity * t ^ odd - 2) / (odd : ℝ) =
            unity * (t ^ odd / odd) - 2 / odd := by
          ring
        linarith
      rw [partialSum_succ, series]
      push_cast at hle hge ⊢
      constructor <;> linarith

end Series

section Fixed

variable {num den : Nat}

/-- The argument of the series for the logarithm of `num / den`. -/
noncomputable def argument (num den : Nat) : ℝ :=
  |(num : ℝ) - den| / (num + den)

theorem argument_nonneg (num den : Nat) : 0 ≤ argument num den := by
  unfold argument
  positivity

theorem argument_le (hden : 0 < den) (h : num ≤ 2 * den) (h' : den ≤ 2 * num) :
    argument num den ≤ 1 / 3 := by
  have hden' : (0 : ℝ) < den := Nat.cast_pos.mpr hden
  have hreal : (num : ℝ) ≤ 2 * den := by exact_mod_cast h
  have hreal' : (den : ℝ) ≤ 2 * num := by exact_mod_cast h'
  unfold argument
  rw [div_le_iff₀ (by linarith), abs_le]
  constructor <;> linarith

theorem argument_comm (num den : Nat) : argument num den = argument den num := by
  unfold argument
  rw [abs_sub_comm, add_comm]

theorem log_argument_of_le (hden : 0 < den) (h : den ≤ num) :
    log ((1 + argument num den) / (1 - argument num den)) = |log ((num : ℝ) / den)| := by
  have hden' : (0 : ℝ) < den := Nat.cast_pos.mpr hden
  have h' : (den : ℝ) ≤ num := by exact_mod_cast h
  have hsum : (num : ℝ) + den ≠ 0 := by positivity
  have hargument : argument num den = (num - den) / (num + den) := by
    rw [argument, abs_of_nonneg (by linarith)]
  have hratio : (1 + argument num den) / (1 - argument num den) = (num : ℝ) / den := by
    have hlower : 1 - argument num den = 2 * den / (num + den) := by
      rw [hargument]
      field_simp
      ring
    have hupper : 1 + argument num den = 2 * num / (num + den) := by
      rw [hargument]
      field_simp
      ring
    rw [hlower, hupper]
    field_simp
  rw [hratio, abs_of_nonneg (log_nonneg ((one_le_div hden').mpr h'))]

theorem log_argument (hnum : 0 < num) (hden : 0 < den) :
    log ((1 + argument num den) / (1 - argument num den)) = |log ((num : ℝ) / den)| := by
  rcases le_total den num with h | h
  · exact log_argument_of_le hden h
  · rw [argument_comm, log_argument_of_le hnum h, ← inv_div, log_inv, abs_neg]

/-- The argument in fixed point. -/
def fixedArgument (num den : Nat) : Nat :=
  (if num < den then den - num else num - den) * twoPow scale / (num + den)

theorem fixed_eq (num den : Nat) :
    fixed num den = 2 * series (fixedArgument num den * fixedArgument num den / twoPow scale) 96 1
      (fixedArgument num den) :=
  rfl

theorem fixedArgument_bounds (num den : Nat) :
    (fixedArgument num den : ℝ) ≤ unity * argument num den ∧
      unity * argument num den - 1 ≤ fixedArgument num den := by
  have hdistance : (((if num < den then den - num else num - den : ℕ)) : ℝ) =
      |(num : ℝ) - den| := by
    split
    · rename_i h
      have h' : (num : ℝ) < den := by exact_mod_cast h
      rw [Nat.cast_sub h.le, abs_of_neg (by linarith), neg_sub]
    · rename_i h
      have h' : (den : ℝ) ≤ num := by exact_mod_cast not_lt.mp h
      rw [Nat.cast_sub (not_lt.mp h), abs_of_nonneg (by linarith)]
  have hratio : ((((if num < den then den - num else num - den) * twoPow scale : ℕ)) : ℝ) /
      ((num + den : ℕ) : ℝ) = unity * argument num den := by
    rw [Nat.cast_mul, hdistance, ← unity, argument]
    push_cast
    ring
  unfold fixedArgument
  rw [← hratio]
  exact ⟨Nat.cast_div_le, sub_one_le_cast_div _ _⟩

theorem approximates_fixedArgument (num den : Nat) :
    Approximates (argument num den) 1 (fixedArgument num den) := by
  obtain ⟨hle, hge⟩ := fixedArgument_bounds num den
  rw [← pow_one (argument num den)] at hle hge
  exact ⟨hle, by linarith⟩

theorem approximatesSquare_fixedArgument (h : argument num den ≤ 1 / 3) :
    ApproximatesSquare (argument num den)
      (fixedArgument num den * fixedArgument num den / twoPow scale) := by
  have hunity := unity_pos
  have ht := argument_nonneg num den
  obtain ⟨hle, hge⟩ := fixedArgument_bounds num den
  generalize argument num den = t at *
  generalize fixedArgument num den = s at *
  have hs : (0 : ℝ) ≤ s := Nat.cast_nonneg s
  constructor
  · calc ((s * s / twoPow scale : ℕ) : ℝ)
        ≤ ((s * s : ℕ) : ℝ) / (twoPow scale : ℕ) := Nat.cast_div_le
      _ = (s : ℝ) * s / unity := by rw [Nat.cast_mul, unity]
      _ ≤ unity * t * (unity * t) / unity := by gcongr
      _ = unity * t ^ 2 := by field_simp
  · have hfloor := sub_one_le_cast_div (s * s) (twoPow scale)
    rw [Nat.cast_mul, ← unity] at hfloor
    have hsquare : unity * (unity * t ^ 2 - 2 * t) ≤ (s : ℝ) * s := by
      have hlost := mul_le_mul_of_nonneg_left (by linarith : unity * t - s ≤ 1)
        (by positivity : 0 ≤ unity * t)
      nlinarith [sq_nonneg (unity * t - s)]
    have hquotient : unity * t ^ 2 - 2 * t ≤ (s : ℝ) * s / unity := by
      rw [le_div_iff₀ hunity]
      linarith
    linarith

theorem partialSum_one (t : ℝ) (terms : Nat) :
    partialSum t terms 1 = ∑ i ∈ range terms, t ^ (2 * i + 1) / (2 * i + 1) := by
  unfold partialSum
  refine sum_congr rfl fun i _ => ?_
  push_cast
  rw [add_comm 1 (2 * i), add_comm (1 : ℝ)]

theorem fixed_bounds (hnum : 0 < num) (hden : 0 < den) (h : num ≤ 2 * den) (h' : den ≤ 2 * num) :
    (fixed num den : ℝ) ≤ unity * |log ((num : ℝ) / den)| ∧
      unity * |log ((num : ℝ) / den)| - 577 ≤ fixed num den := by
  have hunity := unity_pos
  have ht := argument_nonneg num den
  have ht' := argument_le hden h h'
  obtain ⟨hle, hge⟩ := series_bounds ht ht' (approximatesSquare_fixedArgument ht') 96 le_rfl
    (approximates_fixedArgument num den)
  have hlog := log_argument hnum hden
  have hlower := sum_range_le_log_div ht (by linarith : argument num den < 1) 96
  have hupper := log_div_le_sum_range_add ht (by linarith : argument num den < 1) 96
  rw [hlog, ← partialSum_one] at hlower hupper
  rw [fixed_eq]
  push_cast
  generalize argument num den = t at *
  -- The rest of the series behind the last term is less than half a unit.
  have hrest : unity * (t ^ (2 * 96 + 1) / (1 - t ^ 2)) ≤ 1 / 2 := by
    calc unity * (t ^ (2 * 96 + 1) / (1 - t ^ 2))
        ≤ unity * ((1 / 3) ^ (2 * 96 + 1) / (1 - (1 / 3) ^ 2)) := by
          gcongr
      _ ≤ 1 / 2 := by
          unfold unity twoPow scale
          norm_num
  constructor
  · nlinarith
  · nlinarith

theorem series_mono {square square' term term' : Nat} (hsquare : square ≤ square')
    (hterm : term ≤ term') (terms odd : Nat) :
    series square terms odd term ≤ series square' terms odd term' := by
  induction terms generalizing odd term term' with
  | zero => rfl
  | succ terms ih =>
      exact Nat.add_le_add (Nat.div_le_div_right hterm)
        (ih (Nat.div_le_div_right (Nat.mul_le_mul hterm hsquare)) (odd + 2))

theorem fixedArgument_comm (num den : Nat) : fixedArgument num den = fixedArgument den num := by
  unfold fixedArgument
  rw [Nat.add_comm den num]
  rcases lt_trichotomy num den with h | rfl | h
  · rw [if_pos h, if_neg h.le.not_gt]
  · rfl
  · rw [if_neg h.le.not_gt, if_pos h]

theorem fixed_comm (num den : Nat) : fixed num den = fixed den num := by
  rw [fixed_eq, fixed_eq, fixedArgument_comm]

theorem fixedArgument_mono {num' den' : Nat} (hden : 0 < den) (hden' : 0 < den') (h : den ≤ num)
    (h' : den' ≤ num') (hratio : num * den' ≤ num' * den) :
    fixedArgument num den ≤ fixedArgument num' den' := by
  unfold fixedArgument
  rw [if_neg h.not_gt, if_neg h'.not_gt, Nat.le_div_iff_mul_le (by omega)]
  obtain ⟨r, rfl⟩ := Nat.exists_eq_add_of_le h
  obtain ⟨r', rfl⟩ := Nat.exists_eq_add_of_le h'
  rw [Nat.add_sub_cancel_left, Nat.add_sub_cancel_left]
  apply Nat.le_of_mul_le_mul_right _ (by omega : 0 < den + r + den)
  have hfloor := Nat.div_mul_le_self (r * twoPow scale) (den + r + den)
  calc r * twoPow scale / (den + r + den) * (den' + r' + den') * (den + r + den)
      = r * twoPow scale / (den + r + den) * (den + r + den) * (den' + r' + den') := by ring
    _ ≤ r * twoPow scale * (den' + r' + den') := Nat.mul_le_mul_right _ hfloor
    _ = twoPow scale * (r * (den' + r' + den')) := by ring
    _ ≤ twoPow scale * (r' * (den + r + den)) := Nat.mul_le_mul_left _ (by nlinarith)
    _ = r' * twoPow scale * (den + r + den) := by ring

theorem fixed_mono {num' den' : Nat} (hden : 0 < den) (hden' : 0 < den') (h : den ≤ num)
    (h' : den' ≤ num') (hratio : num * den' ≤ num' * den) : fixed num den ≤ fixed num' den' := by
  have hargument := fixedArgument_mono hden hden' h h' hratio
  rw [fixed_eq, fixed_eq]
  exact Nat.mul_le_mul_left 2 (series_mono
    (Nat.div_le_div_right (Nat.mul_le_mul hargument hargument)) hargument 96 1)

end Fixed

section Natural

open Binary (withSign)

variable {num den : Nat}

/-- The logarithm of `num / den` up to the error of the fixed point. -/
def natural (num den : Nat) : ℚ :=
  withSign (num < den) (fixed num den / twoPow scale)

theorem natural_of_lt (h : num < den) : natural num den = -(fixed num den / twoPow scale) := by
  rw [natural, decide_eq_true h, Binary.withSign_true]

theorem natural_of_le (h : den ≤ num) : natural num den = fixed num den / twoPow scale := by
  rw [natural, decide_eq_false h.not_gt, Binary.withSign_false]

theorem fixed_div_mono {m n : Nat} (h : m ≤ n) : (m : ℚ) / twoPow scale ≤ n / twoPow scale :=
  div_le_div_of_nonneg_right (Nat.cast_le.mpr h) (Nat.cast_nonneg _)

theorem fixed_div_nonneg (n : Nat) : (0 : ℚ) ≤ n / twoPow scale :=
  div_nonneg (Nat.cast_nonneg _) (Nat.cast_nonneg _)

theorem natural_mono {num num' : Nat} (hnum : 0 < num) (hden : 0 < den) (h : num ≤ num') :
    natural num den ≤ natural num' den := by
  rcases lt_or_ge num' den with hnum' | hnum'
  · have hfixed : fixed den num' ≤ fixed den num :=
      fixed_mono (by omega) hnum (by omega) (by omega) (Nat.mul_le_mul_left den h)
    rw [natural_of_lt hnum', natural_of_lt (h.trans_lt hnum'), fixed_comm num, fixed_comm num',
      neg_le_neg_iff]
    exact fixed_div_mono hfixed
  · rw [natural_of_le hnum']
    rcases lt_or_ge num den with hlt | hge
    · rw [natural_of_lt hlt]
      exact (neg_nonpos.mpr (fixed_div_nonneg _)).trans (fixed_div_nonneg _)
    · rw [natural_of_le hge]
      exact fixed_div_mono (fixed_mono hden hden hge hnum' (Nat.mul_le_mul_right den h))

theorem abs_natural_sub_log_le (hnum : 0 < num) (hden : 0 < den) (h : num ≤ 2 * den)
    (h' : den ≤ 2 * num) : |(natural num den : ℝ) - log ((num : ℝ) / den)| ≤ 577 / unity := by
  have hunity := unity_pos
  obtain ⟨hle, hge⟩ := fixed_bounds hnum hden h h'
  have hcast : (((fixed num den : ℚ) / twoPow scale : ℚ) : ℝ) = fixed num den / unity := by
    rw [Rat.cast_div, Rat.cast_natCast, Rat.cast_natCast, unity]
  have hupper : (fixed num den : ℝ) / unity ≤ |log ((num : ℝ) / den)| := by
    rw [div_le_iff₀ hunity]
    linarith
  have hlower : |log ((num : ℝ) / den)| - 577 / unity ≤ (fixed num den : ℝ) / unity := by
    rw [sub_le_iff_le_add, ← add_div, le_div_iff₀ hunity]
    linarith
  have hnum' : (0 : ℝ) < num := Nat.cast_pos.mpr hnum
  have hden' : (0 : ℝ) < den := Nat.cast_pos.mpr hden
  rw [abs_le]
  rcases lt_or_ge num den with hlt | hge
  · have hlog : log ((num : ℝ) / den) ≤ 0 :=
      log_nonpos (by positivity) ((div_le_one hden').mpr (Nat.cast_le.mpr hlt.le))
    rw [natural_of_lt hlt, Rat.cast_neg, hcast]
    rw [abs_of_nonpos hlog] at hupper hlower
    constructor <;> linarith
  · have hlog : 0 ≤ log ((num : ℝ) / den) :=
      log_nonneg ((one_le_div hden').mpr (Nat.cast_le.mpr hge))
    rw [natural_of_le hge, hcast]
    rw [abs_of_nonneg hlog] at hupper hlower
    constructor <;> linarith

end Natural

end Logarithm

end Metrology
