import Mathlib.Algebra.Order.Floor.Semifield
import Mathlib.Data.Rat.Floor
import Metrology.Binary.Arithmetic
import Metrology.Proofs.BinaryGrid

namespace Metrology

namespace Precision

variable {p : Precision}

def magnitude (p : Precision) (code : Nat) : ℚ :=
  p.units code / 2 ^ p.places

/-- The code nearest to the absolute value of a rational number. -/
def codeOf (p : Precision) (q : ℚ) : Nat :=
  p.nearestCode (q.num.natAbs * 2 ^ p.places) q.den

def rounded (p : Precision) (q : ℚ) : ℚ :=
  if q < 0 then -p.magnitude (p.codeOf q) else p.magnitude (p.codeOf q)

/-- The greatest finite number. -/
def greatest (p : Precision) : ℚ :=
  p.magnitude (p.count - 1)

theorem magnitude_nonneg (p : Precision) (code : Nat) : 0 ≤ p.magnitude code := by
  unfold magnitude
  positivity

theorem magnitude_mono (p : Precision) {a b : Nat} (h : a ≤ b) :
    p.magnitude a ≤ p.magnitude b := by
  unfold magnitude
  gcongr
  exact p.strictMono_units.monotone h

theorem natAbs_num_div_den (q : ℚ) : (q.num.natAbs : ℚ) / q.den = |q| := by
  rw [Nat.cast_natAbs, Int.cast_abs, ← abs_of_pos (Nat.cast_pos.mpr q.den_pos : (0 : ℚ) < q.den),
    ← abs_div, Rat.num_div_den]

theorem isNearest_codeOf (p : Precision) (q : ℚ) :
    ∃ below, p.IsNearest (|q| * 2 ^ p.places) (p.codeOf q) below := by
  have h := p.isNearest_nearestCode (q.num.natAbs * 2 ^ p.places) q.den_pos
  have hratio : ((q.num.natAbs * 2 ^ p.places : ℕ) : ℚ) / q.den = |q| * 2 ^ p.places := by
    rw [← natAbs_num_div_den]
    push_cast
    ring
  rw [hratio] at h
  exact ⟨_, h⟩

/-- The code nearest to a ratio of units is that of its value. -/
theorem codeOf_ratio (p : Precision) (num : Nat) {den : Nat} (hden : 0 < den) :
    p.codeOf (num / den / 2 ^ p.places) = p.nearestCode num den := by
  have hnonneg : (0 : ℚ) ≤ num / den / 2 ^ p.places := by positivity
  obtain ⟨below, h⟩ := p.isNearest_codeOf (num / den / 2 ^ p.places)
  rw [abs_of_nonneg hnonneg, div_mul_cancel₀ _ (by positivity)] at h
  exact h.eq (p.isNearest_nearestCode num hden)

theorem codeOf_mono {q q' : ℚ} (h : |q| ≤ |q'|) : p.codeOf q ≤ p.codeOf q' := by
  obtain ⟨below, hq⟩ := p.isNearest_codeOf q
  obtain ⟨below', hq'⟩ := p.isNearest_codeOf q'
  exact hq.mono hq' (by gcongr)

theorem codeOf_neg (p : Precision) (q : ℚ) : p.codeOf (-q) = p.codeOf q := by
  simp [codeOf]

theorem rounded_of_nonneg {q : ℚ} (h : 0 ≤ q) : p.rounded q = p.magnitude (p.codeOf q) :=
  if_neg (not_lt.mpr h)

theorem rounded_of_neg {q : ℚ} (h : q < 0) : p.rounded q = -p.magnitude (p.codeOf q) :=
  if_pos h

theorem codeOf_magnitude (p : Precision) (code : Nat) : p.codeOf (p.magnitude code) = code := by
  obtain ⟨below, h⟩ := p.isNearest_codeOf (p.magnitude code)
  have hunits : |p.magnitude code| * 2 ^ p.places = p.units code := by
    rw [abs_of_nonneg (p.magnitude_nonneg code), magnitude, div_mul_cancel₀ _ (by positivity)]
  rw [hunits] at h
  exact h.eq (p.isNearest_units code)

theorem rounded_magnitude (p : Precision) (code : Nat) :
    p.rounded (p.magnitude code) = p.magnitude code := by
  rw [rounded_of_nonneg (p.magnitude_nonneg code), codeOf_magnitude]

theorem magnitude_zero (p : Precision) : p.magnitude 0 = 0 := by
  simp [magnitude, units_of_lt]

theorem rounded_zero (p : Precision) : p.rounded 0 = 0 := by
  have h := p.rounded_magnitude 0
  rwa [magnitude_zero] at h

theorem rounded_neg (p : Precision) (q : ℚ) : p.rounded (-q) = -p.rounded q := by
  rcases lt_trichotomy q 0 with hq | rfl | hq
  · rw [rounded_of_neg hq, rounded_of_nonneg (by linarith), codeOf_neg, neg_neg]
  · simp [rounded_zero]
  · rw [rounded_of_nonneg hq.le, rounded_of_neg (by linarith), codeOf_neg]

theorem rounded_mono (p : Precision) : Monotone p.rounded := by
  intro q q' h
  rcases lt_or_ge q' 0 with hq' | hq'
  · have hq : q < 0 := h.trans_lt hq'
    rw [rounded_of_neg hq, rounded_of_neg hq', neg_le_neg_iff]
    apply p.magnitude_mono
    apply codeOf_mono
    rw [abs_of_neg hq, abs_of_neg hq']
    exact neg_le_neg h
  · rcases lt_or_ge q 0 with hq | hq
    · rw [rounded_of_neg hq, rounded_of_nonneg hq']
      exact (neg_nonpos.mpr (p.magnitude_nonneg _)).trans (p.magnitude_nonneg _)
    · rw [rounded_of_nonneg hq, rounded_of_nonneg hq']
      apply p.magnitude_mono
      apply codeOf_mono
      rwa [abs_of_nonneg hq, abs_of_nonneg hq']

theorem abs_rounded_sub_le (p : Precision) (q : ℚ) :
    |p.rounded q - q| ≤ |q| / 2 ^ (p.fractionBits + 1) + 1 / 2 ^ (p.places + 1) := by
  obtain ⟨below, h⟩ := p.isNearest_codeOf q
  have habs : |p.rounded q - q| = abs (p.magnitude (p.codeOf q) - |q|) := by
    rcases lt_or_ge q 0 with hq | hq
    · rw [rounded_of_neg hq, abs_of_neg hq, ← abs_neg]
      congr 1
      ring
    · rw [rounded_of_nonneg hq, abs_of_nonneg hq]
  have hscale : p.magnitude (p.codeOf q) - |q| =
      (p.units (p.codeOf q) - |q| * 2 ^ p.places) / 2 ^ p.places := by
    unfold magnitude
    field_simp
  rw [habs, hscale, abs_div, abs_of_pos (by positivity : (0 : ℚ) < 2 ^ p.places),
    div_le_iff₀ (by positivity)]
  calc |(p.units (p.codeOf q) : ℚ) - |q| * 2 ^ p.places|
      ≤ |q| * 2 ^ p.places / 2 ^ (p.fractionBits + 1) + 1 / 2 := h.abs_sub_le_relative
    _ = (|q| / 2 ^ (p.fractionBits + 1) + 1 / 2 ^ (p.places + 1)) * 2 ^ p.places := by
        rw [pow_succ (2 : ℚ) p.places]
        field_simp

/-- Numbers with few enough binary digits are on the grid. -/
theorem rounded_dyadic (p : Precision) {m : Int} (hm : m.natAbs < 2 ^ (p.fractionBits + 1))
    (s : Nat) : p.rounded (m * 2 ^ s / 2 ^ p.places) = m * 2 ^ s / 2 ^ p.places := by
  obtain ⟨code, hcode⟩ := p.exists_units_eq (pow_succ' 2 p.fractionBits ▸ hm) s
  have hmagnitude : p.magnitude code = (m.natAbs : ℚ) * 2 ^ s / 2 ^ p.places := by
    rw [magnitude, hcode]
    push_cast
    rfl
  have hrounded := p.rounded_magnitude code
  rw [hmagnitude] at hrounded
  rcases le_or_gt 0 m with h | h
  · have hcast : (m.natAbs : ℚ) = m := by
      rw [Nat.cast_natAbs, abs_of_nonneg h]
    rwa [hcast] at hrounded
  · have hcast : (m.natAbs : ℚ) = -m := by
      rw [Nat.cast_natAbs, abs_of_neg h, Int.cast_neg]
    rw [hcast, neg_mul, neg_div, rounded_neg, neg_inj] at hrounded
    exact hrounded

theorem rounded_div_two_pow (p : Precision) {m : Int} (hm : m.natAbs < 2 ^ (p.fractionBits + 1))
    {k : Nat} (hk : k ≤ p.places) : p.rounded (m / 2 ^ k) = m / 2 ^ k := by
  have h := p.rounded_dyadic hm (p.places - k)
  have hplaces : (2 : ℚ) ^ p.places = 2 ^ k * 2 ^ (p.places - k) := by
    rw [← pow_add, Nat.add_sub_cancel' hk]
  rwa [hplaces, mul_div_mul_right _ _ (by positivity)] at h

theorem rounded_intCast (p : Precision) {m : Int} (hm : m.natAbs < 2 ^ (p.fractionBits + 1)) :
    p.rounded m = m := by
  have h := p.rounded_div_two_pow hm (Nat.zero_le _)
  rwa [pow_zero, div_one] at h

theorem rounded_two_pow (p : Precision) (n : Nat) : p.rounded (2 ^ n) = 2 ^ n := by
  have hone : (1 : Int).natAbs < 2 ^ (p.fractionBits + 1) :=
    Nat.one_lt_two_pow (Nat.succ_ne_zero _)
  have h := p.rounded_dyadic hone (n + p.places)
  rwa [pow_add, Int.cast_one, one_mul, mul_div_cancel_right₀ _ (by positivity)] at h

/-- What is less than half of the lower gap off is read as the code: above it the gap is no
smaller. -/
theorem codeOf_eq_of_abs_sub_lt {code : Nat} {q : ℚ} (hq : 0 ≤ q)
    (h : 2 * |q * 2 ^ p.places - p.units (code + 1)| < p.gap code) : p.codeOf q = code + 1 := by
  obtain ⟨below, hnearest⟩ := p.isNearest_codeOf q
  rw [abs_of_nonneg hq] at hnearest
  generalize q * 2 ^ p.places = r at h hnearest
  have hlower : (p.units (code + 1) : ℚ) = p.units code + p.gap code := by
    exact_mod_cast p.units_succ code
  have hupper : (p.units (code + 1 + 1) : ℚ) = p.units (code + 1) + p.gap (code + 1) := by
    exact_mod_cast p.units_succ (code + 1)
  have hgap : (p.gap code : ℚ) ≤ p.gap (code + 1) := by
    exact_mod_cast p.gap_mono (Nat.le_succ code)
  have hpos : (0 : ℚ) < p.gap code := by
    exact_mod_cast p.gap_pos code
  rcases lt_or_ge r (p.units (code + 1)) with hr | hr
  · rw [abs_of_neg (by linarith)] at h
    have hbelow : p.IsNearest r (code + 1) code :=
      ⟨by linarith, hr, .inr (.inl ⟨by linarith, rfl⟩)⟩
    exact hnearest.eq hbelow
  · rw [abs_of_nonneg (by linarith)] at h
    have habove : p.IsNearest r (code + 1) (code + 1) :=
      ⟨hr, by linarith, .inl ⟨by linarith, rfl⟩⟩
    exact hnearest.eq habove

theorem rounded_sub_of_lt_gap {below : Nat} {d : ℚ} (hd : 0 < d) (hgap : 2 * d < p.gap below) :
    p.rounded ((p.units (below + 1) - d) / 2 ^ p.places) = p.magnitude (below + 1) := by
  have hsucc : (p.units (below + 1) : ℚ) = p.units below + p.gap below := by
    exact_mod_cast p.units_succ below
  have hr : (0 : ℚ) ≤ p.units (below + 1) - d := by
    rw [hsucc]
    linarith [(Nat.cast_nonneg (p.units below) : (0 : ℚ) ≤ p.units below)]
  have hq : (0 : ℚ) ≤ (p.units (below + 1) - d) / 2 ^ p.places := by positivity
  rw [rounded_of_nonneg hq, codeOf_eq_of_abs_sub_lt hq]
  rw [div_mul_cancel₀ _ (by positivity), sub_sub_cancel_left, abs_neg, abs_of_pos hd]
  exact hgap

theorem abs_rounded (p : Precision) (q : ℚ) : |p.rounded q| = p.rounded |q| := by
  rcases le_total 0 q with hq | hq
  · have hrounded := p.rounded_mono hq
    rw [p.rounded_zero] at hrounded
    rw [abs_of_nonneg hq, abs_of_nonneg hrounded]
  · have hrounded := p.rounded_mono hq
    rw [p.rounded_zero] at hrounded
    rw [abs_of_nonpos hq, abs_of_nonpos hrounded, p.rounded_neg]

theorem abs_rounded_le {q b : ℚ} (hb : p.rounded b = b) (h : |q| ≤ b) : |p.rounded q| ≤ b := by
  rw [abs_rounded, ← hb]
  exact p.rounded_mono h

theorem codeOf_lt_count {q : ℚ} (h : |q| ≤ p.greatest) : p.codeOf q < p.count := by
  have hle : p.codeOf q ≤ p.codeOf p.greatest := by
    apply codeOf_mono
    exact h.trans (le_abs_self _)
  rw [greatest, codeOf_magnitude] at hle
  have := p.zero_lt_count
  omega

theorem two_pow_le_greatest_double : 2 ^ 1023 ≤ greatest .double := by
  have hunits : 2 ^ 1023 * 2 ^ 1074 ≤ units .double (count .double - 1) := by
    decide +kernel
  have hcast : ((2 ^ 1023 * 2 ^ 1074 : ℕ) : ℚ) = 2 ^ 1023 * 2 ^ places .double := by
    rw [Nat.cast_mul, Nat.cast_pow, Nat.cast_pow, Nat.cast_ofNat, places]
  rw [greatest, magnitude, le_div_iff₀ (by positivity), ← hcast]
  exact Nat.cast_le.mpr hunits

end Precision

namespace Binary

open Precision

variable {p : Precision} {x y : Binary p} {a b : ℚ}

def withSign (negative : Bool) (q : ℚ) : ℚ :=
  if negative then -q else q

@[simp]
theorem withSign_true (q : ℚ) : withSign true q = -q :=
  rfl

@[simp]
theorem withSign_false (q : ℚ) : withSign false q = q :=
  rfl

theorem abs_withSign (negative : Bool) (q : ℚ) : |withSign negative q| = |q| := by
  cases negative <;> simp

theorem withSign_mul (s t : Bool) (q r : ℚ) :
    withSign s q * withSign t r = withSign (s ^^ t) (q * r) := by
  cases s <;> cases t <;> simp

theorem withSign_div (s t : Bool) (q r : ℚ) :
    withSign s q / withSign t r = withSign (s ^^ t) (q / r) := by
  cases s <;> cases t <;> simp [neg_div, div_neg]

theorem withSign_natAbs (n : Int) : withSign (decide (n < 0)) n.natAbs = n := by
  rw [Nat.cast_natAbs]
  by_cases hn : n < 0
  · simp [hn, abs_of_neg hn]
  · simp [hn, abs_of_nonneg (not_lt.mp hn)]

theorem rounded_withSign (negative : Bool) (q : ℚ) :
    p.rounded (withSign negative q) = withSign negative (p.rounded q) := by
  cases negative
  · rfl
  · exact p.rounded_neg q

/-- The value of a finite number. -/
def toRat? : Binary p → Option ℚ
  | .finite negative code => some (withSign negative (p.magnitude code))
  | _ => none

theorem exists_finite_of_toRat? (h : x.toRat? = some a) :
    ∃ negative code, x = .finite negative code ∧ a = withSign negative (p.magnitude code) := by
  cases x with
  | nan => simp [toRat?] at h
  | infinite negative => simp [toRat?] at h
  | finite negative code => exact ⟨negative, code, rfl, (Option.some.inj h).symm⟩

theorem code_ne_zero {negative : Bool} {code : Nat}
    (h : withSign negative (p.magnitude code) ≠ 0) : code ≠ 0 := by
  rintro rfl
  rw [p.magnitude_zero] at h
  cases negative <;> simp at h

/-- A result is the exact ratio of units, rounded, if that is in the finite range. -/
theorem toRat?_round (negative : Bool) (num : Nat) {den : Nat} (hden : 0 < den) {q : ℚ}
    (hq : q = withSign negative (num / den / 2 ^ p.places)) (hrange : |q| ≤ p.greatest) :
    (round negative num den : Binary p).toRat? = some (p.rounded q) := by
  have hnonneg : (0 : ℚ) ≤ num / den / 2 ^ p.places := by positivity
  rw [hq, abs_withSign] at hrange
  have hcode := p.codeOf_ratio num hden
  have hlt : p.nearestCode num den < p.count := hcode ▸ codeOf_lt_count hrange
  have hround : (round negative num den : Binary p) = .finite negative ⟨_, hlt⟩ := dif_pos hlt
  rw [hround, hq, rounded_withSign, rounded_of_nonneg hnonneg, hcode]
  rfl

theorem toRat?_neg (hx : x.toRat? = some a) : x.neg.toRat? = some (-a) := by
  obtain ⟨negative, code, rfl, rfl⟩ := exists_finite_of_toRat? hx
  cases negative <;> simp [neg, toRat?]

theorem toRat?_mul (hx : x.toRat? = some a) (hy : y.toRat? = some b) (h : |a * b| ≤ p.greatest) :
    (x.mul y).toRat? = some (p.rounded (a * b)) := by
  obtain ⟨s, c, rfl, rfl⟩ := exists_finite_of_toRat? hx
  obtain ⟨t, d, rfl, rfl⟩ := exists_finite_of_toRat? hy
  refine toRat?_round (s ^^ t) (p.units c * p.units d) (Nat.two_pow_pos p.places) ?_ h
  rw [withSign_mul]
  unfold magnitude
  push_cast
  field_simp

theorem units_ne_zero {code : Nat} (h : code ≠ 0) : p.units code ≠ 0 := by
  have hlt := p.strictMono_units (Nat.pos_of_ne_zero h)
  omega

theorem toRat?_div (hx : x.toRat? = some a) (hy : y.toRat? = some b) (hb : b ≠ 0)
    (h : |a / b| ≤ p.greatest) : (x.div y).toRat? = some (p.rounded (a / b)) := by
  obtain ⟨s, c, rfl, rfl⟩ := exists_finite_of_toRat? hx
  obtain ⟨t, d, rfl, rfl⟩ := exists_finite_of_toRat? hy
  have hd : d.val ≠ 0 := by
    intro hzero
    apply hb
    rw [hzero, magnitude_zero]
    cases t <;> simp
  have hunits : (p.units d : ℚ) ≠ 0 := Nat.cast_ne_zero.mpr (units_ne_zero hd)
  have hdiv : (finite s c).div (finite t d) =
      round (s ^^ t) (p.units c * 2 ^ p.places) (p.units d) := if_neg hd
  rw [hdiv]
  refine toRat?_round _ _ (Nat.pos_of_ne_zero (units_ne_zero hd)) ?_ h
  rw [withSign_div]
  unfold magnitude
  push_cast
  field_simp

/-- The units of a finite number with their sign. -/
theorem signed_units_div (negative : Bool) (code : Nat) :
    ((if negative then -(p.units code : Int) else p.units code : Int) : ℚ) / 2 ^ p.places =
      withSign negative (p.magnitude code) := by
  cases negative <;> simp [magnitude, neg_div]

theorem toRat?_add (hx : x.toRat? = some a) (hy : y.toRat? = some b) (h : |a + b| ≤ p.greatest) :
    (x.add y).toRat? = some (p.rounded (a + b)) := by
  obtain ⟨s, c, rfl, ha⟩ := exists_finite_of_toRat? hx
  obtain ⟨t, d, rfl, hb⟩ := exists_finite_of_toRat? hy
  rw [← signed_units_div] at ha hb
  unfold add
  simp only
  generalize (if s then -(p.units c : Int) else p.units c) = m at ha ⊢
  generalize (if t then -(p.units d : Int) else p.units d) = n at hb ⊢
  have hsum : a + b = (m + n : Int) / 2 ^ p.places := by
    rw [ha, hb]
    push_cast
    ring
  split
  · rename_i hzero
    rw [hsum, hzero]
    cases s <;> cases t <;> simp [zero, toRat?, magnitude_zero, rounded_zero]
  · refine toRat?_round _ _ Nat.one_pos ?_ h
    rw [hsum, ← withSign_natAbs (m + n), Nat.cast_one, div_one]
    cases decide (m + n < 0) <;> simp [neg_div]

theorem toRat?_sub (hx : x.toRat? = some a) (hy : y.toRat? = some b) (h : |a - b| ≤ p.greatest) :
    (x.sub y).toRat? = some (p.rounded (a - b)) := by
  rw [sub_eq_add_neg] at h ⊢
  exact toRat?_add hx (toRat?_neg hy) h

theorem toRat?_ofInt (n : Int) (h : |(n : ℚ)| ≤ p.greatest) :
    (ofInt n : Binary p).toRat? = some (p.rounded n) := by
  refine toRat?_round _ (n.natAbs * 2 ^ p.places) Nat.one_pos ?_ h
  push_cast
  rw [div_one, mul_div_cancel_right₀ _ (by positivity)]
  exact (withSign_natAbs n).symm

theorem floor?_of_toRat? (hx : x.toRat? = some a) : x.floor? = some ⌊a⌋ := by
  obtain ⟨negative, code, rfl, rfl⟩ := exists_finite_of_toRat? hx
  rw [← signed_units_div]
  have hfloor := Rat.floor_intCast_div_natCast
    (if negative then -(p.units code : Int) else p.units code) (twoPow p.places)
  rw [floor?, ← hfloor, twoPow_eq, Nat.cast_pow, Nat.cast_ofNat]

theorem toNat_truncate?_of_toRat? (hx : x.toRat? = some a) :
    (x.truncate?.getD 0).toNat = ⌊a⌋₊ := by
  obtain ⟨negative, code, rfl, rfl⟩ := exists_finite_of_toRat? hx
  cases negative with
  | true =>
      have hneg : withSign true (p.magnitude code) ≤ 0 := neg_nonpos.mpr (p.magnitude_nonneg code)
      rw [Nat.floor_of_nonpos hneg, truncate?, Option.getD_some, if_pos rfl]
      exact Int.toNat_of_nonpos (neg_nonpos.mpr (Int.natCast_nonneg _))
  | false =>
      have hfloor := Nat.floor_div_eq_div (K := ℚ) (p.units code) (twoPow p.places)
      rw [truncate?, Option.getD_some, if_neg (by decide), Int.toNat_natCast, ← hfloor, twoPow_eq,
        withSign_false, magnitude, Nat.cast_pow, Nat.cast_ofNat]

theorem isZero_eq_true_iff (hx : x.toRat? = some a) : x.isZero = true ↔ a = 0 := by
  obtain ⟨negative, code, rfl, rfl⟩ := exists_finite_of_toRat? hx
  have hzero : p.magnitude code = 0 ↔ code.val = 0 := by
    constructor
    · intro h
      by_contra hcode
      have hunits : (p.units code : ℚ) ≠ 0 := Nat.cast_ne_zero.mpr (units_ne_zero hcode)
      have hne : (p.units code : ℚ) / 2 ^ p.places ≠ 0 := by positivity
      exact hne h
    · intro h
      rw [h, magnitude_zero]
  cases negative <;> simp [isZero, hzero]

end Binary

end Metrology
