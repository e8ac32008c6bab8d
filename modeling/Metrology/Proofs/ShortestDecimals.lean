import Metrology.Proofs.DecimalReading

/-!
Shortest decimals. The numbers that are read as one code are an interval, so a grid of decimals
has one in it exactly if a neighbour of the number on that grid is one. The search stops at the
first such grid, which is among the first seventeen, and nothing with fewer digits is read as the
same number.
-/

namespace Metrology

namespace Precision

variable {p : Precision} {code : Nat}

theorem codeOf_eq_of_between {a b c : ℚ} (ha : 0 ≤ a) (hab : a ≤ b) (hbc : b ≤ c)
    (hacode : p.codeOf a = code) (hccode : p.codeOf c = code) : p.codeOf b = code := by
  have hb := ha.trans hab
  have hc := hb.trans hbc
  apply le_antisymm
  · rw [← hccode]
    apply codeOf_mono
    rwa [abs_of_nonneg hb, abs_of_nonneg hc]
  · rw [← hacode]
    apply codeOf_mono
    rwa [abs_of_nonneg ha, abs_of_nonneg hb]

theorem units_lt (p : Precision) (code : Nat) :
    p.units code < 2 * 2 ^ p.fractionBits * p.gap code := by
  rcases Nat.lt_or_ge code (2 ^ p.fractionBits) with hcode | hcode
  · rw [units_of_lt hcode]
    have := p.gap_pos code
    nlinarith
  · obtain ⟨s, m, rfl, hm, hm'⟩ := exists_eq_mul_add hcode
    rw [units_mul_add s hm hm', gap_mul_add s hm hm']
    exact Nat.mul_lt_mul_of_pos_right hm' (Nat.two_pow_pos s)

/-- Some multiple of `10 ^ exponent` is read as the code. -/
def Reached (p : Precision) (code : Nat) (exponent : Int) : Prop :=
  ∃ n : Nat, p.codeOf (Decimal.value ⟨n, exponent⟩) = code

theorem reached_of_le {d : Decimal} (h : p.codeOf d.value = code) {exponent : Int}
    (hexponent : exponent ≤ d.exponent) : p.Reached code exponent := by
  refine ⟨d.significand * 10 ^ (d.exponent - exponent).toNat, ?_⟩
  convert h using 2
  have hsum : d.exponent = (d.exponent - exponent).toNat + exponent := by omega
  rw [Decimal.value, Decimal.value, Nat.cast_mul, mul_assoc, Nat.cast_pow, Nat.cast_ofNat,
    ← zpow_natCast, ← zpow_add₀ (by norm_num), ← hsum]

end Precision

namespace Binary

open Precision

variable {p : Precision} {tie : Tie} {code : Fin p.count} {d : Decimal} {magnitude exponent : Int}
  {grids n : Nat}

section Grid

theorem exists_neighbours (p : Precision) (tie : Tie) (code : Nat) (exponent : Int) :
    ∃ lower, (∀ d, d ∈ neighbours p tie (p.units code) exponent ↔
        d = ⟨lower, exponent⟩ ∨ d = ⟨lower + 1, exponent⟩) ∧
      Decimal.value ⟨lower, exponent⟩ ≤ p.magnitude code ∧
      p.magnitude code < Decimal.value ⟨lower + 1, exponent⟩ := by
  obtain ⟨num, den, hstep⟩ : ∃ num den, gridStep p exponent = (num, den) := ⟨_, _, rfl⟩
  obtain ⟨hnum, hden⟩ := Prod.mk.inj hstep
  have hnumPos : 0 < num := by
    rw [← hnum]
    exact Nat.mul_pos (Nat.pow_pos (by decide)) (Nat.two_pow_pos _)
  have hdenPos : 0 < den := by
    rw [← hden]
    exact Nat.pow_pos (by decide)
  have hratio : (10 : ℚ) ^ exponent = num / den / 2 ^ p.places := by
    rw [← hnum, ← hden, Decimal.ten_zpow_eq_div, twoPow_eq]
    push_cast
    field_simp
  have hvalue (n : Nat) : Decimal.value ⟨n, exponent⟩ = (n * num : Nat) / den / 2 ^ p.places := by
    rw [Decimal.value, hratio, Nat.cast_mul, mul_div_assoc, mul_div_assoc]
  have hmagnitude : p.magnitude code = (p.units code * den : Nat) / den / 2 ^ p.places := by
    rw [magnitude, Nat.cast_mul, mul_div_cancel_right₀ _ (Nat.cast_ne_zero.mpr hdenPos.ne')]
  refine ⟨p.units code * den / num, fun d => ?_, ?_, ?_⟩
  · unfold neighbours
    rw [hstep]
    dsimp only
    split <;> simp [or_comm]
  · rw [hvalue, hmagnitude]
    gcongr (?_ : ℚ) / _ / _
    exact Nat.cast_le.mpr (Nat.div_mul_le_self _ num)
  · rw [hvalue, hmagnitude]
    gcongr (?_ : ℚ) / _ / _
    rw [Nat.succ_mul]
    exact Nat.cast_lt.mpr (Nat.lt_div_mul_add hnumPos)

/-- A grid with a decimal that is read as the code has one next to the number. -/
theorem exists_readsBack_iff (tie : Tie) (code : Fin p.count) (exponent : Int) :
    (∃ d ∈ neighbours p tie (p.units code) exponent, readsBack code d = true) ↔
      p.Reached code exponent := by
  obtain ⟨lower, hmem, hle, hlt⟩ := exists_neighbours p tie code exponent
  simp only [hmem, readsBack_eq_true_iff]
  constructor
  · rintro ⟨d, rfl | rfl, hd⟩
    · exact ⟨lower, hd⟩
    · exact ⟨lower + 1, hd⟩
  · rintro ⟨n, hn⟩
    rcases Nat.lt_or_ge lower n with hupper | hlower
    · refine ⟨_, .inr rfl, codeOf_eq_of_between (p.magnitude_nonneg code) hlt.le ?_
        (p.codeOf_magnitude code) hn⟩
      unfold Decimal.value
      gcongr
      exact hupper
    · refine ⟨_, .inl rfl, codeOf_eq_of_between (Decimal.value_nonneg ⟨n, exponent⟩) ?_ hle hn
        (p.codeOf_magnitude code)⟩
      unfold Decimal.value
      gcongr

end Grid

section Search

theorem search_eq_some (h : search tie code magnitude grids n = some d) :
    ∃ k, n ≤ k ∧ k < n + grids ∧ d ∈ neighbours p tie (p.units code) (magnitude - k) ∧
      p.codeOf d.value = code ∧ ∀ j, n ≤ j → j < k → ¬ p.Reached code (magnitude - j) := by
  induction grids generalizing n with
  | zero => cases h
  | succ grids ih =>
      rw [search] at h
      split at h
      · rename_i found hfound
        obtain rfl := Option.some.inj h
        refine ⟨n, le_rfl, by omega, List.mem_of_find?_eq_some hfound, ?_, by omega⟩
        exact readsBack_eq_true_iff.mp (List.find?_some hfound)
      · rename_i hfound
        obtain ⟨k, hnk, hk, hmem, hcode, hfirst⟩ := ih h
        refine ⟨k, by omega, by omega, hmem, hcode, fun j hnj hjk => ?_⟩
        rcases Nat.eq_or_lt_of_le hnj with rfl | hlt
        · rw [← exists_readsBack_iff tie]
          simpa using hfound
        · exact hfirst j hlt hjk

theorem search_ne_none {k : Nat} (hnk : n ≤ k) (hk : k < n + grids)
    (hreached : p.Reached code (magnitude - k)) : search tie code magnitude grids n ≠ none := by
  induction grids generalizing n with
  | zero => omega
  | succ grids ih =>
      rw [search]
      split
      · nofun
      · rename_i hfound
        refine ih ?_ (by omega)
        by_contra hlt
        obtain rfl : n = k := by omega
        rw [← exists_readsBack_iff tie] at hreached
        simp only [List.find?_eq_none] at hfound
        obtain ⟨d, hmem, hd⟩ := hreached
        exact hfound d hmem hd

end Search

section Magnitude

theorem decimalMagnitude_bounds {code : Nat} (hcode : code ≠ 0) :
    (10 : ℚ) ^ (decimalMagnitude p (p.units code) - 1) ≤ p.magnitude code ∧
      p.magnitude code < 10 ^ decimalMagnitude p (p.units code) := by
  generalize hn : p.units code * tenPow p.places / twoPow p.places = n
  have hmagnitude : decimalMagnitude p (p.units code) = (Decimal.digits n).length - p.places := by
    rw [decimalMagnitude, hn]
  rw [tenPow_eq, twoPow_eq] at hn
  have hpos : n ≠ 0 := by
    rw [← hn]
    refine (Nat.div_pos ?_ (Nat.two_pow_pos _)).ne'
    calc 2 ^ p.places ≤ 10 ^ p.places := Nat.pow_le_pow_left (by decide) _
      _ ≤ p.units code * 10 ^ p.places :=
        Nat.le_mul_of_pos_left _ (Nat.pos_of_ne_zero (units_ne_zero hcode))
  have hle : n * 2 ^ p.places ≤ p.units code * 10 ^ p.places := by
    rw [← hn]
    exact Nat.div_mul_le_self _ _
  have hlt : p.units code * 10 ^ p.places < (n + 1) * 2 ^ p.places := by
    rw [← hn, Nat.succ_mul]
    exact Nat.lt_div_mul_add (Nat.two_pow_pos _)
  have hvalue (m : Nat) : Decimal.value ⟨m, -p.places⟩ = m / 10 ^ p.places := by
    rw [Decimal.value, zpow_neg, zpow_natCast, div_eq_mul_inv]
  constructor
  · calc (10 : ℚ) ^ (decimalMagnitude p (p.units code) - 1)
        = 10 ^ (Decimal.leading ⟨n, -p.places⟩) := by
          rw [hmagnitude, Decimal.leading]
          ring_nf
      _ ≤ Decimal.value ⟨n, -p.places⟩ := Decimal.pow_leading_le_value hpos
      _ ≤ p.magnitude code := by
          rw [hvalue, magnitude, div_le_div_iff₀ (by positivity) (by positivity)]
          exact_mod_cast hle
  · calc p.magnitude code
        < Decimal.value ⟨n + 1, -p.places⟩ := by
          rw [hvalue, magnitude, div_lt_div_iff₀ (by positivity) (by positivity)]
          exact_mod_cast hlt
      _ ≤ (10 ^ (Decimal.digits n).length : Nat) * 10 ^ (-(p.places : Int)) := by
          unfold Decimal.value
          gcongr
          exact Decimal.lt_pow_length_digits n
      _ = 10 ^ decimalMagnitude p (p.units code) := by
          rw [hmagnitude, sub_eq_add_neg, zpow_add₀ (by norm_num), zpow_natCast, Nat.cast_pow,
            Nat.cast_ofNat]

theorem exists_close (p : Precision) (code : Nat) (exponent : Int) :
    ∃ n : Nat, 2 * |Decimal.value ⟨n, exponent⟩ - p.magnitude code| ≤ 10 ^ exponent := by
  obtain ⟨lower, -, hle, hlt⟩ := exists_neighbours p .up code exponent
  have hsucc : Decimal.value ⟨lower + 1, exponent⟩ =
      Decimal.value ⟨lower, exponent⟩ + 10 ^ exponent := by
    rw [Decimal.value, Decimal.value]
    push_cast
    ring
  rcases le_total (2 * p.magnitude code)
    (Decimal.value ⟨lower, exponent⟩ + Decimal.value ⟨lower + 1, exponent⟩) with hhalf | hhalf
  · refine ⟨lower, ?_⟩
    rw [abs_of_nonpos (by linarith)]
    linarith
  · refine ⟨lower + 1, ?_⟩
    rw [abs_of_pos (by linarith)]
    linarith

/-- Seventeen digits are enough: the nearest such decimal is off by less than half a gap. -/
theorem reached_seventeen (hcode : code.val ≠ 0) :
    p.Reached code (decimalMagnitude p (p.units code) - 17) := by
  obtain ⟨hlow, -⟩ := decimalMagnitude_bounds hcode
  generalize decimalMagnitude p (p.units code) = m at hlow ⊢
  obtain ⟨n, hclose⟩ := exists_close p code (m - 17)
  obtain ⟨below, hbelow⟩ := Nat.exists_eq_succ_of_ne_zero hcode
  have hstep : (10 : ℚ) ^ (m - 17) * 10 ^ 16 ≤ p.magnitude code := by
    convert hlow using 1
    rw [← zpow_natCast, ← zpow_add₀ (by norm_num)]
    ring_nf
  have hunits : p.magnitude code * 2 ^ p.places = p.units (below + 1) := by
    rw [magnitude, div_mul_cancel₀ _ (by positivity), hbelow]
  have hgap : p.units (below + 1) < 10 ^ 16 * p.gap below := by
    have hbits : 2 * 2 ^ p.fractionBits + 1 ≤ 10 ^ 16 := by cases p <;> decide
    have hlt := p.units_lt below
    rw [units_succ]
    nlinarith [p.gap_pos below]
  have hgap' : (p.units (below + 1) : ℚ) < 10 ^ 16 * p.gap below := by exact_mod_cast hgap
  refine ⟨n, hbelow ▸ codeOf_eq_of_abs_sub_lt (Decimal.value_nonneg _) ?_⟩
  rw [← hunits, ← sub_mul, abs_mul, abs_of_pos (by positivity : (0 : ℚ) < 2 ^ p.places)]
  have hplaces : (0 : ℚ) < 2 ^ p.places := by positivity
  nlinarith

/-- A decimal that is read as the code has a multiple with as many digits on the grid of as many
digits: itself, or the power of ten between it and the number. -/
theorem reached_of_codeOf_eq (hcode : code.val ≠ 0) (hd : p.codeOf d.value = code) :
    p.Reached code
      (decimalMagnitude p (p.units code) - (Decimal.digits d.significand).length) := by
  obtain ⟨hlow, -⟩ := decimalMagnitude_bounds hcode
  generalize decimalMagnitude p (p.units code) = m at hlow ⊢
  obtain hexponent | hexponent :=
    le_or_gt (m - (Decimal.digits d.significand).length) d.exponent
  · exact reached_of_le hd hexponent
  · have hpower : Decimal.value ⟨1, m - 1⟩ = 10 ^ (m - 1) := by
      rw [Decimal.value, Nat.cast_one, one_mul]
    have hle : d.value ≤ Decimal.value ⟨1, m - 1⟩ := by
      rw [hpower]
      refine d.value_lt_pow_leading.le.trans (zpow_le_zpow_right₀ (by norm_num) ?_)
      unfold Decimal.leading
      omega
    have hbetween := codeOf_eq_of_between d.value_nonneg hle (hpower ▸ hlow) hd
      (p.codeOf_magnitude code)
    have hlength := Decimal.length_digits_pos d.significand
    refine reached_of_le hbetween ?_
    change m - _ ≤ m - 1
    omega

end Magnitude

section Shortest

/-- The decimal is read as the code, and none with fewer digits is. -/
structure IsShortest (code : Fin p.count) (d : Decimal) : Prop where
  codeOf_eq : p.codeOf d.value = code
  length_le : ∀ e : Decimal, p.codeOf e.value = code →
    (Decimal.digits d.significand).length ≤ (Decimal.digits e.significand).length

theorem value_trimTen (d : Decimal) : (trimTen d).value = d.value := by
  unfold trimTen
  split
  · rename_i hten
    rw [Decimal.value, Decimal.value, hten, zpow_add_one₀ (by norm_num)]
    push_cast
    ring
  · rfl

theorem significand_trimTen_le (d : Decimal) : (trimTen d).significand ≤ d.significand := by
  unfold trimTen
  split
  · rename_i hten
    change 1 ≤ d.significand
    omega
  · exact le_rfl

/-- What is found on a grid of `n` digits has no more of them. Only a power of ten could, and that
is on the first grid. -/
theorem length_trimTen_le (hcode : code.val ≠ 0) (hn : 1 ≤ n)
    (hmem : d ∈ neighbours p tie (p.units code) (decimalMagnitude p (p.units code) - n))
    (hd : p.codeOf d.value = code)
    (hfirst : ∀ j, 1 ≤ j → j < n → ¬ p.Reached code (decimalMagnitude p (p.units code) - j)) :
    (Decimal.digits (trimTen d).significand).length ≤ n := by
  obtain ⟨-, hhigh⟩ := decimalMagnitude_bounds hcode
  generalize decimalMagnitude p (p.units code) = m at *
  obtain ⟨lower, hneighbours, hle, -⟩ := exists_neighbours p tie code (m - n)
  have hlower : lower < 10 ^ n := by
    have hlt := hle.trans_lt hhigh
    have hpower : (10 : ℚ) ^ m = 10 ^ n * 10 ^ (m - n) := by
      rw [← zpow_natCast, ← zpow_add₀ (by norm_num)]
      ring_nf
    rw [Decimal.value, hpower] at hlt
    exact_mod_cast lt_of_mul_lt_mul_right hlt (by positivity)
  obtain ⟨hexponent, hsignificand⟩ : d.exponent = m - n ∧ d.significand ≤ lower + 1 := by
    rcases (hneighbours d).mp hmem with rfl | rfl <;> exact ⟨rfl, by simp⟩
  rcases Nat.lt_or_ge d.significand (10 ^ n) with hlt | hge
  · exact (Decimal.length_digits_le_iff hn).mpr ((significand_trimTen_le d).trans_lt hlt)
  · have hten : d.significand = 10 ^ n := by omega
    rcases Nat.eq_or_lt_of_le hn with rfl | hmore
    · have htrim : trimTen d = ⟨1, d.exponent + 1⟩ := if_pos hten
      rw [htrim, Decimal.length_digits_le_iff hn]
      change 1 < 10 ^ 1
      decide
    · -- Then the number is read from `10 ^ m`, which is on the grid of one digit.
      have hvalue : Decimal.value ⟨1, m⟩ = d.value := by
        rw [Decimal.value, Decimal.value, hten, hexponent, Nat.cast_one, one_mul, Nat.cast_pow,
          Nat.cast_ofNat, ← zpow_natCast, ← zpow_add₀ (by norm_num)]
        ring_nf
      refine absurd (reached_of_le (hvalue ▸ hd) ?_) (hfirst 1 le_rfl hmore)
      exact Int.sub_le_self m (by decide)

theorem isShortest_zero (hcode : code.val = 0) : IsShortest code ⟨0, 0⟩ where
  codeOf_eq := by
    rw [Decimal.value_of_significand_eq_zero rfl, p.codeOf_zero, hcode]
  length_le e _ := Decimal.length_digits_pos e.significand

/-- The decimal that is written for a number is a shortest one. -/
theorem isShortest_shortest (tie : Tie) (code : Fin p.count) :
    IsShortest code (shortest tie code) := by
  unfold shortest
  split
  · rename_i hcode
    exact isShortest_zero hcode
  · rename_i hcode
    dsimp only
    split
    · rename_i d hsearch
      obtain ⟨n, hn, -, hmem, hd, hfirst⟩ := search_eq_some hsearch
      refine ⟨(value_trimTen d).symm ▸ hd, fun e he => ?_⟩
      refine (length_trimTen_le hcode hn hmem hd hfirst).trans ?_
      by_contra! hlt
      exact hfirst _ (Decimal.length_digits_pos e.significand) hlt (reached_of_codeOf_eq hcode he)
    · rename_i hsearch
      exact absurd hsearch (search_ne_none (by decide) (by decide) (reached_seventeen hcode))

end Shortest

end Binary

end Metrology
