import Mathlib.Algebra.Order.Field.Rat
import Mathlib.Order.Monotone.Basic
import Mathlib.Tactic.FieldSimp
import Mathlib.Tactic.Linarith
import Mathlib.Tactic.Positivity
import Mathlib.Tactic.Ring
import Metrology.Binary.Basic

namespace Metrology

theorem twoPow_eq (n : Nat) : twoPow n = 2 ^ n :=
  rfl

namespace Precision

variable {p : Precision}

/-- The units from a magnitude to the next one. -/
def gap (p : Precision) (code : Nat) : Nat :=
  2 ^ (code / 2 ^ p.fractionBits - 1)

theorem gap_pos (p : Precision) (code : Nat) : 0 < p.gap code :=
  Nat.two_pow_pos _

theorem gap_mono (p : Precision) {a b : Nat} (h : a ≤ b) : p.gap a ≤ p.gap b :=
  Nat.pow_le_pow_right two_pos (Nat.sub_le_sub_right (Nat.div_le_div_right h) 1)

theorem units_of_lt {code : Nat} (h : code < 2 ^ p.fractionBits) : p.units code = code := by
  unfold units
  rw [twoPow_eq, if_pos h]

theorem units_of_le {code : Nat} (h : 2 ^ p.fractionBits ≤ code) :
    p.units code = (2 ^ p.fractionBits + code % 2 ^ p.fractionBits) * p.gap code :=
  if_neg (Nat.not_lt.mpr h)

/-- Beyond the least ones, a code is a shift `s` and a significand `m` of full length. -/
theorem gap_mul_add (s : Nat) {m : Nat} (h : 2 ^ p.fractionBits ≤ m)
    (h' : m < 2 * 2 ^ p.fractionBits) : p.gap (s * 2 ^ p.fractionBits + m) = 2 ^ s := by
  have hdiv : m / 2 ^ p.fractionBits = 1 :=
    Nat.div_eq_of_lt_le (by omega) (by omega)
  rw [gap, Nat.mul_comm, Nat.mul_add_div (Nat.two_pow_pos _), hdiv, Nat.add_sub_cancel]

theorem units_mul_add (s : Nat) {m : Nat} (h : 2 ^ p.fractionBits ≤ m)
    (h' : m < 2 * 2 ^ p.fractionBits) : p.units (s * 2 ^ p.fractionBits + m) = m * 2 ^ s := by
  have hmod : m % 2 ^ p.fractionBits = m - 2 ^ p.fractionBits := by
    rw [Nat.mod_eq_sub_mod h, Nat.mod_eq_of_lt (by omega)]
  rw [units_of_le (Nat.le_add_left_of_le h), gap_mul_add s h h', Nat.mul_add_mod', hmod,
    Nat.add_sub_cancel' h]

theorem exists_eq_mul_add {code : Nat} (h : 2 ^ p.fractionBits ≤ code) :
    ∃ s m, code = s * 2 ^ p.fractionBits + m ∧ 2 ^ p.fractionBits ≤ m ∧
      m < 2 * 2 ^ p.fractionBits := by
  have hmod := Nat.mod_lt code (Nat.two_pow_pos p.fractionBits)
  have hcode := Nat.div_add_mod' code (2 ^ p.fractionBits)
  obtain ⟨s, hs⟩ : ∃ s, code / 2 ^ p.fractionBits = s + 1 :=
    Nat.exists_eq_add_one.mpr (Nat.div_pos h (Nat.two_pow_pos _))
  refine ⟨s, 2 ^ p.fractionBits + code % 2 ^ p.fractionBits, ?_, by omega, by omega⟩
  rw [hs, Nat.succ_mul] at hcode
  omega

theorem units_succ (code : Nat) : p.units (code + 1) = p.units code + p.gap code := by
  rcases Nat.lt_or_ge code (2 ^ p.fractionBits) with hcode | hcode
  · have hgap : p.gap code = 1 := by
      simp [gap, Nat.div_eq_of_lt hcode]
    rw [units_of_lt hcode, hgap]
    rcases Nat.lt_or_ge (code + 1) (2 ^ p.fractionBits) with hnext | hnext
    · rw [units_of_lt hnext]
    · simpa using units_mul_add 0 hnext (by omega)
  · obtain ⟨s, m, rfl, hm, hm'⟩ := exists_eq_mul_add hcode
    rw [gap_mul_add s hm hm', units_mul_add s hm hm', ← Nat.succ_mul, Nat.add_assoc]
    rcases Nat.lt_or_ge (m + 1) (2 * 2 ^ p.fractionBits) with hnext | hnext
    · rw [units_mul_add s (by omega) hnext]
    · -- The significand is full, and the next one is the least with a larger shift.
      have hfull : m + 1 = 2 ^ p.fractionBits + 2 ^ p.fractionBits := by omega
      rw [Nat.succ_eq_add_one, hfull, ← Nat.add_assoc, ← Nat.succ_mul,
        units_mul_add _ le_rfl (by omega), Nat.pow_succ]
      ring

theorem strictMono_units (p : Precision) : StrictMono p.units := by
  apply strictMono_nat_of_lt_succ
  intro code
  rw [units_succ]
  exact Nat.lt_add_of_pos_right (p.gap_pos code)

theorem floorCode_spec (p : Precision) (n : Nat) :
    p.units (p.floorCode n) = n / p.gap (p.floorCode n) * p.gap (p.floorCode n) ∧
      p.gap (p.floorCode n) = 2 ^ (n.log2 - p.fractionBits) := by
  have hn : n < 2 ^ (n.log2 + 1) := Nat.lt_log2_self
  have hfloor : p.floorCode n = (n.log2 - p.fractionBits) * 2 ^ p.fractionBits +
      n / 2 ^ (n.log2 - p.fractionBits) := rfl
  rcases le_or_gt n.log2 p.fractionBits with hlog | hlog
  · have hn' : n < 2 * 2 ^ p.fractionBits := by
      calc n < 2 ^ (n.log2 + 1) := hn
        _ ≤ 2 ^ (p.fractionBits + 1) := Nat.pow_le_pow_right (by decide) (by omega)
        _ = 2 * 2 ^ p.fractionBits := Nat.pow_succ'
    rw [Nat.sub_eq_zero_of_le hlog] at hfloor ⊢
    rcases Nat.lt_or_ge n (2 ^ p.fractionBits) with hsmall | hlarge
    · have hcode : p.floorCode n = n := by simpa using hfloor
      rw [hcode, units_of_lt hsmall, gap, Nat.div_eq_of_lt hsmall]
      simp
    · have hcode : p.floorCode n = 0 * 2 ^ p.fractionBits + n := by simpa using hfloor
      rw [hcode, units_mul_add 0 hlarge hn', gap_mul_add 0 hlarge hn']
      simp
  · have hself : 2 ^ n.log2 ≤ n := Nat.log2_self_le (by rintro rfl; simp at hlog)
    have hpow : 2 ^ n.log2 = 2 ^ p.fractionBits * 2 ^ (n.log2 - p.fractionBits) := by
      rw [← Nat.pow_add, Nat.add_sub_cancel' hlog.le]
    have hlow : 2 ^ p.fractionBits ≤ n / 2 ^ (n.log2 - p.fractionBits) := by
      rw [Nat.le_div_iff_mul_le (Nat.two_pow_pos _), ← hpow]
      exact hself
    have hhigh : n / 2 ^ (n.log2 - p.fractionBits) < 2 * 2 ^ p.fractionBits := by
      rw [Nat.div_lt_iff_lt_mul (Nat.two_pow_pos _), Nat.mul_assoc, ← hpow]
      rwa [Nat.pow_succ'] at hn
    rw [hfloor, units_mul_add _ hlow hhigh, gap_mul_add _ hlow hhigh]
    exact ⟨rfl, rfl⟩

theorem units_floorCode_le (p : Precision) (n : Nat) : p.units (p.floorCode n) ≤ n := by
  rw [(p.floorCode_spec n).1]
  exact Nat.div_mul_le_self n _

theorem lt_units_floorCode_succ (p : Precision) (n : Nat) : n < p.units (p.floorCode n + 1) := by
  rw [units_succ, (p.floorCode_spec n).1]
  exact Nat.lt_div_mul_add (p.gap_pos _)

/-- A number with few enough binary digits before its zeros is a magnitude. -/
theorem exists_units_eq (p : Precision) {m : Nat} (hm : m < 2 * 2 ^ p.fractionBits) (s : Nat) :
    ∃ code, p.units code = m * 2 ^ s := by
  refine ⟨p.floorCode (m * 2 ^ s), ?_⟩
  obtain ⟨hunits, hgap⟩ := p.floorCode_spec (m * 2 ^ s)
  rw [hunits]
  apply Nat.div_mul_cancel
  rw [hgap]
  have hlog : (m * 2 ^ s).log2 - p.fractionBits ≤ s := by
    rcases Nat.eq_zero_or_pos m with rfl | hpos
    · simp
    · have hlt : m * 2 ^ s < 2 ^ (p.fractionBits + 1 + s) := by
        rw [Nat.pow_add, Nat.pow_succ']
        exact Nat.mul_lt_mul_of_pos_right hm (Nat.two_pow_pos s)
      have := (Nat.log2_lt (Nat.mul_pos hpos (Nat.two_pow_pos s)).ne').mpr hlt
      omega
  exact Dvd.dvd.mul_left (Nat.pow_dvd_pow 2 hlog) m

/-- The code is nearest to `r` units, with the code `below` beneath it: it is the even one halfway
between two. -/
structure IsNearest (p : Precision) (r : ℚ) (code below : Nat) : Prop where
  le : (p.units below : ℚ) ≤ r
  lt : r < p.units (below + 1)
  cases : 2 * r < p.units below + p.units (below + 1) ∧ code = below ∨
    p.units below + p.units (below + 1) < 2 * r ∧ code = below + 1 ∨
    2 * r = p.units below + p.units (below + 1) ∧ code = below + below % 2

theorem isNearest_nearestCode (p : Precision) (num : Nat) {den : Nat} (hden : 0 < den) :
    p.IsNearest (num / den) (p.nearestCode num den) (p.floorCode (num / den)) := by
  have hden' : (0 : ℚ) < den := Nat.cast_pos.mpr hden
  have hle := p.units_floorCode_le (num / den)
  have hlt := p.lt_units_floorCode_succ (num / den)
  generalize hcode : p.floorCode (num / den) = code at hle hlt
  have hmiddle : (2 : ℚ) * (num / den) = (2 * num : ℕ) / den := by
    push_cast
    ring
  have hmiddle' : (p.units code : ℚ) + p.units (code + 1) =
      ((p.units code + p.units (code + 1)) * den : ℕ) / den := by
    push_cast
    field_simp
  refine ⟨?_, ?_, ?_⟩
  · rw [le_div_iff₀ hden']
    exact_mod_cast (Nat.le_div_iff_mul_le hden).mp hle
  · rw [div_lt_iff₀ hden']
    exact_mod_cast (Nat.div_lt_iff_lt_mul hden).mp hlt
  · rw [hmiddle, hmiddle', div_lt_div_iff_of_pos_right hden', div_lt_div_iff_of_pos_right hden',
      div_left_inj' hden'.ne', Nat.cast_lt, Nat.cast_lt, Nat.cast_inj]
    unfold nearestCode
    simp only [hcode]
    split
    · exact .inl ⟨‹_›, rfl⟩
    · split
      · exact .inr (.inl ⟨‹_›, rfl⟩)
      · exact .inr (.inr ⟨by omega, rfl⟩)

namespace IsNearest

variable {r r' : ℚ} {code code' below below' : Nat}

theorem le_succ (h : p.IsNearest r code below) : below ≤ code ∧ code ≤ below + 1 := by
  rcases h.cases with ⟨-, hcode⟩ | ⟨-, hcode⟩ | ⟨-, hcode⟩ <;> omega

theorem mono (h : p.IsNearest r code below) (h' : p.IsNearest r' code' below') (hr : r ≤ r') :
    code ≤ code' := by
  have hbelow : below < below' + 1 := by
    apply p.strictMono_units.lt_iff_lt.mp
    exact_mod_cast (h.le.trans hr).trans_lt h'.lt
  obtain ⟨-, hupper⟩ := h.le_succ
  obtain ⟨hlower, -⟩ := h'.le_succ
  rcases Nat.lt_or_ge below below' with hlt | hge
  · omega
  · obtain rfl : below = below' := by omega
    -- Between the same two codes the halves decide.
    rcases h.cases with ⟨hhalf, rfl⟩ | ⟨hhalf, rfl⟩ | ⟨hhalf, rfl⟩
    · exact hlower
    · rcases h'.cases with ⟨hhalf', -⟩ | ⟨-, rfl⟩ | ⟨hhalf', -⟩
      · linarith
      · exact le_rfl
      · linarith
    · rcases h'.cases with ⟨hhalf', -⟩ | ⟨-, rfl⟩ | ⟨-, rfl⟩
      · linarith
      · omega
      · exact le_rfl

theorem eq (h : p.IsNearest r code below) (h' : p.IsNearest r code' below') : code = code' :=
  Nat.le_antisymm (h.mono h' le_rfl) (h'.mono h le_rfl)

/-- The nearest code is at most half a gap off. -/
theorem abs_sub_le (h : p.IsNearest r code below) :
    |(p.units code : ℚ) - r| ≤ (p.gap below : ℚ) / 2 := by
  have hsucc : (p.units (below + 1) : ℚ) = p.units below + p.gap below := by
    exact_mod_cast p.units_succ below
  have hle := h.le
  have hlt := h.lt
  have hcases := h.cases
  rw [hsucc] at hlt hcases
  rw [abs_le]
  rcases hcases with ⟨hhalf, rfl⟩ | ⟨hhalf, rfl⟩ | ⟨hhalf, rfl⟩
  · constructor <;> linarith
  · rw [hsucc]
    constructor <;> linarith
  · rcases Nat.mod_two_eq_zero_or_one below with heven | hodd
    · rw [heven, Nat.add_zero]
      constructor <;> linarith
    · rw [hodd, hsucc]
      constructor <;> linarith

end IsNearest

theorem isNearest_units (p : Precision) (code : Nat) : p.IsNearest (p.units code) code code := by
  have hlt : (p.units code : ℚ) < p.units (code + 1) :=
    Nat.cast_lt.mpr (p.strictMono_units (Nat.lt_succ_self code))
  exact ⟨le_rfl, hlt, .inl ⟨by linarith, rfl⟩⟩

/-- The gap is one unit or a small part of the magnitude. -/
theorem gap_le (p : Precision) (code : Nat) :
    p.gap code = 1 ∨ 2 ^ p.fractionBits * p.gap code ≤ p.units code := by
  rcases Nat.lt_or_ge code (2 ^ p.fractionBits) with hcode | hcode
  · left
    simp [gap, Nat.div_eq_of_lt hcode]
  · right
    rw [units_of_le hcode]
    exact Nat.mul_le_mul_right _ (Nat.le_add_right _ _)

theorem IsNearest.abs_sub_le_relative {r : ℚ} {code below : Nat} (h : p.IsNearest r code below) :
    |(p.units code : ℚ) - r| ≤ r / 2 ^ (p.fractionBits + 1) + 1 / 2 := by
  have hr : 0 ≤ r := le_trans (Nat.cast_nonneg _) h.le
  refine h.abs_sub_le.trans ?_
  rcases p.gap_le below with hgap | hgap
  · rw [hgap, Nat.cast_one]
    have := div_nonneg hr (by positivity : (0 : ℚ) ≤ 2 ^ (p.fractionBits + 1))
    linarith
  · have hgap' : (2 : ℚ) ^ p.fractionBits * p.gap below ≤ r := by
      refine le_trans ?_ h.le
      exact_mod_cast hgap
    have hhalf : (p.gap below : ℚ) / 2 ≤ r / 2 ^ (p.fractionBits + 1) := by
      rw [le_div_iff₀ (by positivity), pow_succ]
      linarith
    linarith

end Precision

end Metrology
