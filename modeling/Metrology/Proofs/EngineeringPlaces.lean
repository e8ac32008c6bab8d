import Metrology.Proofs.EngineeringScale

/-!
The decimal places of the engineering notation: the wanted digits less the common logarithm of the
scaled value and a slack, cut to a whole number. The slack keeps a power of ten from getting a
place too many, but it is smaller than the gap between the numbers from five on and lost next to
them.
-/

namespace Metrology

namespace Engineering

open Precision (rounded)

open Logarithm (logarithm)

section Places

variable {x : Binary .double} {b q : ℚ} {digits i k : Nat}

/-- The decimal places before they are cut to a whole number. -/
def exactPlaces (b : ℚ) (digits : Nat) : ℚ :=
  rounded .double (rounded .double (digits - logarithm b) - 1 / 2 ^ 51)

theorem toRat?_slack : slack.toRat? = some (1 / 2 ^ 51) := by
  decide +kernel

theorem rounded_natCast (hk : k ≤ 2000) : rounded .double (k : ℚ) = k := by
  have hbits : 2 ^ (Precision.fractionBits .double + 1) = 9007199254740992 := by decide
  exact_mod_cast Precision.rounded_intCast .double (m := k) (by omega)

theorem toRat?_digits (hdigits : digits ≤ 1000) :
    (Binary.ofInt digits : Binary .double).toRat? = some (digits : ℚ) := by
  have hrange : |((digits : Int) : ℚ)| ≤ 2 ^ 20 := by
    rw [Int.cast_natCast, Nat.abs_cast]
    exact_mod_cast hdigits.trans (by norm_num)
  rw [Binary.toRat?_ofInt _ (Logarithm.le_greatest hrange), Int.cast_natCast,
    rounded_natCast (by omega)]

theorem places_of_zero (hx : x.toRat? = some 0) (hdigits : digits ≤ 1000) :
    places x digits ≤ digits := by
  have hone : (Binary.one : Binary .double).toRat? = some 1 := by
    decide +kernel
  have hrange : |(digits : ℚ) - 1| ≤ 2 ^ 20 := by
    have hcast : (digits : ℚ) ≤ 1000 := by exact_mod_cast hdigits
    rw [abs_le]
    constructor <;> linarith [(Nat.cast_nonneg digits : (0 : ℚ) ≤ digits)]
  have hexact := Binary.toRat?_sub (toRat?_digits hdigits) hone (Logarithm.le_greatest hrange)
  rw [places, if_pos ((Binary.isZero_eq_true_iff hx).mpr rfl)]
  rw [Binary.toNat_truncate?_of_toRat? hexact]
  apply Nat.floor_le_of_le
  calc rounded .double ((digits : ℚ) - 1) ≤ rounded .double digits :=
        Precision.double.rounded_mono (by linarith)
    _ = digits := rounded_natCast (by omega)

/-- The logarithm of an infinite number is infinite, so there is no number of places to cut. -/
theorem places_of_infinite (negative : Bool) (hdigits : digits ≤ 1000) :
    places (.infinite negative) digits = 0 := by
  obtain ⟨s, code, hfinite, -⟩ := Binary.exists_finite_of_toRat? (toRat?_digits hdigits)
  obtain ⟨t, code', hslack, -⟩ := Binary.exists_finite_of_toRat? toRat?_slack
  unfold places
  rw [hfinite, hslack]
  rfl

theorem places_eq (hx : x.toRat? = some b) (hb : b ≠ 0) (hdigits : digits ≤ 1000) :
    places x digits = ⌊exactPlaces b digits⌋₊ := by
  have hzero : ¬x.isZero = true := fun h => hb ((Binary.isZero_eq_true_iff hx).mp h)
  have hlogarithm := (Logarithm.isLogarithm hx hb).abs_le_of_toRat? hx hb
  have hdifference : |(digits : ℚ) - logarithm b| ≤ 2 ^ 11 := by
    have hcast : (digits : ℚ) ≤ 1000 := by exact_mod_cast hdigits
    rw [abs_le] at hlogarithm ⊢
    constructor <;> linarith [(Nat.cast_nonneg digits : (0 : ℚ) ≤ digits)]
  have hfirst := Binary.toRat?_sub (toRat?_digits hdigits) (Logarithm.toRat?_log10 hx hb)
    (Logarithm.le_greatest (hdifference.trans (by norm_num)))
  have hdifference' : |rounded .double (digits - logarithm b) - 1 / 2 ^ 51| ≤ 2 ^ 20 := by
    have hround := Logarithm.abs_rounded_le_two_pow 11 hdifference
    rw [abs_le] at hround ⊢
    constructor <;> linarith
  have hsecond := Binary.toRat?_sub hfirst toRat?_slack (Logarithm.le_greatest hdifference')
  rw [places, if_neg hzero]
  exact Binary.toNat_truncate?_of_toRat? hsecond

theorem rounded_add_margin (hk : k ≤ 1000) :
    rounded .double (k + 1 / 2 ^ 43) = k + 1 / 2 ^ 43 := by
  have hbits : 2 ^ (Precision.fractionBits .double + 1) = 9007199254740992 := by decide
  have h :=
    Precision.double.rounded_div_two_pow (m := k * 2 ^ 43 + 1) (by omega) (k := 43) (by decide)
  have hvalue : ((k * 2 ^ 43 + 1 : Int) : ℚ) / 2 ^ 43 = k + 1 / 2 ^ 43 := by
    push_cast
    ring
  rwa [hvalue] at h

/-- A number next below a small integer is on the grid, if it is not too near. -/
theorem rounded_sub_two_pow {s : Nat} (hs : s ≤ 51) (hk : k * 2 ^ s ≤ 2 ^ 53) :
    rounded .double (k - 1 / 2 ^ s) = k - 1 / 2 ^ s := by
  have hbits : 2 ^ (Precision.fractionBits .double + 1) = 2 ^ 53 := by decide
  have hcast : (k * 2 ^ s - 1 : Int) = ((k * 2 ^ s : Nat) : Int) - 1 := by push_cast; rfl
  have hm : (k * 2 ^ s - 1 : Int).natAbs < 2 ^ (Precision.fractionBits .double + 1) := by
    rw [hcast, hbits]
    omega
  have h := Precision.double.rounded_div_two_pow hm (k := s) (hs.trans (by decide))
  have hvalue : ((k * 2 ^ s - 1 : Int) : ℚ) / 2 ^ s = k - 1 / 2 ^ s := by
    push_cast
    field_simp
  rwa [hvalue] at h

/-- The slack is lost next to numbers from five on. -/
theorem rounded_sub_slack (hk : 5 ≤ k) (hk' : k ≤ 2000) :
    rounded .double (k - 1 / 2 ^ 51) = k := by
  rcases Nat.lt_or_ge 8 k with hlarge | hsmall
  · obtain ⟨code, hcode⟩ := Precision.double.exists_units_eq (m := k) (by
      have : 2000 < 2 * 2 ^ Precision.fractionBits .double := by decide
      omega) (Precision.places .double)
    -- The code of eight; above it the gap is at least `2 ^ -49`.
    have height : Precision.units .double 4620693217682128896 =
        8 * 2 ^ Precision.places .double := by
      decide +kernel
    have hlt : 4620693217682128896 < code := by
      apply (Precision.strictMono_units .double).lt_iff_lt.mp
      rw [height, hcode]
      exact Nat.mul_lt_mul_of_pos_right hlarge (Nat.two_pow_pos _)
    obtain ⟨below, rfl⟩ := Nat.exists_eq_add_one.mpr (Nat.zero_lt_of_lt hlt)
    have hgap : 2 * (2 ^ Precision.places .double / 2 ^ 51 : ℚ) <
        Precision.gap .double below := by
      have hplaces : 2 ^ Precision.places .double =
          2 ^ 49 * Precision.gap .double 4620693217682128896 := by
        decide +kernel
      have hplaces' := congrArg (Nat.cast (R := ℚ)) hplaces
      have hmono : (Precision.gap .double 4620693217682128896 : ℚ) ≤
          Precision.gap .double below :=
        Nat.cast_le.mpr (Precision.gap_mono .double (Nat.le_of_lt_succ hlt))
      have hpos : (0 : ℚ) < Precision.gap .double below :=
        Nat.cast_pos.mpr (Precision.gap_pos _ _)
      rw [Nat.cast_pow, Nat.cast_mul, Nat.cast_pow, Nat.cast_ofNat] at hplaces'
      rw [hplaces']
      linarith
    have h := Precision.rounded_sub_of_lt_gap (by positivity) hgap
    have hmagnitude : Precision.magnitude .double (below + 1) = k := by
      rw [Precision.magnitude, hcode, Nat.cast_mul, Nat.cast_pow, Nat.cast_ofNat,
        mul_div_cancel_right₀ _ (by positivity)]
    rw [hmagnitude, sub_div, ← Precision.magnitude, hmagnitude, div_right_comm,
      div_self (by positivity)] at h
    exact h
  · have hsmall' : ∀ k : Nat, k < 9 → 5 ≤ k → rounded .double (k - 1 / 2 ^ 51) = k := by
      decide +kernel
    exact hsmall' k (by omega) hk

theorem rounded_sub_slack_le (hq : rounded .double q = q) :
    rounded .double (q - 1 / 2 ^ 51) ≤ q := by
  have h := Precision.double.rounded_mono (by linarith : q - 1 / 2 ^ 51 ≤ q)
  rwa [hq] at h

theorem natCast_le_rounded (hk : k ≤ 2000) (h : k ≤ q) : k ≤ rounded .double q := by
  rw [← rounded_natCast hk]
  exact Precision.double.rounded_mono h

end Places

section Bounds

variable {x : Binary .double} {b q : ℚ} {digits i k : Nat}

variable (hx : x.toRat? = some b) (hlower : 1 / 2 ≤ |b|) (hdigits : digits ≤ 1000)

theorem ne_zero_of_half_le (h : 1 / 2 ≤ |b|) : b ≠ 0 :=
  abs_pos.mp (by linarith)

theorem isLogarithm_of_half_le (hx : x.toRat? = some b) (h : 1 / 2 ≤ |b|) :
    Logarithm.IsLogarithm b (logarithm b) :=
  Logarithm.isLogarithm hx (ne_zero_of_half_le h)

include hx hlower hdigits

theorem places_le_of_sub_le (hq : rounded .double q = q) (h : digits - logarithm b ≤ q)
    (hk : rounded .double (q - 1 / 2 ^ 51) < k + 1) : places x digits ≤ k := by
  have hround := Precision.double.rounded_mono h
  rw [hq] at hround
  have hexact : exactPlaces b digits < (k + 1 : Nat) := by
    push_cast
    exact (Precision.double.rounded_mono (sub_le_sub_right hround _)).trans_lt hk
  rw [places_eq hx (ne_zero_of_half_le hlower) hdigits]
  exact Nat.le_of_lt_succ ((Nat.floor_lt' (Nat.succ_ne_zero k)).mpr hexact)

theorem le_places_of_le_sub (hq : rounded .double q = q) (h : q ≤ digits - logarithm b)
    (hk : k ≤ rounded .double (q - 1 / 2 ^ 51)) : k ≤ places x digits := by
  have hround := Precision.double.rounded_mono h
  rw [hq] at hround
  rw [places_eq hx (ne_zero_of_half_le hlower) hdigits]
  exact Nat.le_floor (hk.trans (Precision.double.rounded_mono (sub_le_sub_right hround _)))

theorem places_le : places x digits ≤ digits := by
  have hq := rounded_sub_two_pow (k := digits + 1) (s := 43) (by norm_num) (by omega)
  have hlogarithm := (isLogarithm_of_half_le hx hlower).neg_one_add_margin_le hlower
  apply places_le_of_sub_le hx hlower hdigits hq
  · push_cast
    linarith
  · have hslack := rounded_sub_slack_le hq
    push_cast at hslack ⊢
    linarith

theorem places_add_le (hi : i < 4) (hle : i ≤ digits) (h : 10 ^ i ≤ |b|) :
    places x digits + i ≤ digits := by
  obtain ⟨k, rfl⟩ := Nat.exists_eq_add_of_le' hle
  have hq := rounded_natCast (k := k) (by omega)
  have hlogarithm := (isLogarithm_of_half_le hx hlower).le_of_pow_ten_le hi h
  refine Nat.add_le_add_right (places_le_of_sub_le hx hlower hdigits hq ?_ ?_) i
  · push_cast
    linarith
  · linarith [rounded_sub_slack_le hq]

theorem places_add_lt_of_margin (hupper : |b| < 1024) (hi : i < digits)
    (h : 10 ^ i * (1 + 1 / 2 ^ 40) ≤ |b|) : places x digits + i < digits := by
  obtain ⟨k, rfl⟩ := Nat.exists_eq_add_of_le' hi
  have hq := rounded_sub_two_pow (k := k + 1) (s := 43) (by norm_num) (by omega)
  have hlogarithm := (isLogarithm_of_half_le hx hlower).margin_le hlower hupper h
  refine Nat.lt_succ_of_le
    (Nat.add_le_add_right (places_le_of_sub_le hx hlower hdigits hq ?_ ?_) i)
  · push_cast
    linarith
  · have hslack := rounded_sub_slack_le hq
    push_cast at hslack ⊢
    linarith

theorem places_add_lt_of_few (hi : i < 4) (hlt : i < digits) (hfew : digits ≤ i + 4)
    (h : 10 ^ i ≤ |b|) : places x digits + i < digits := by
  obtain ⟨k, rfl⟩ := Nat.exists_eq_add_of_le' hlt
  have hslack := rounded_sub_two_pow (k := k + 1) (s := 51) (by norm_num) (by omega)
  have hlogarithm := (isLogarithm_of_half_le hx hlower).le_of_pow_ten_le hi h
  refine Nat.lt_succ_of_le (Nat.add_le_add_right
    (places_le_of_sub_le hx hlower hdigits (rounded_natCast (k := k + 1) (by omega)) ?_ ?_) i)
  · push_cast
    linarith
  · rw [hslack]
    push_cast
    linarith

theorem le_places_add_succ (hi : i < 4) (h : |b| ≤ 10 ^ i) :
    digits ≤ places x digits + i + 1 := by
  rcases le_or_gt digits i with hle | hlt
  · omega
  obtain ⟨k, rfl⟩ := Nat.exists_eq_add_of_le' hlt
  have hlogarithm := (isLogarithm_of_half_le hx hlower).of_le_pow_ten hi h
  refine Nat.add_le_add_right (le_places_of_le_sub hx hlower hdigits
    (rounded_natCast (k := k + 1) (by omega)) ?_ ?_) (i + 1)
  · push_cast
    linarith
  · exact natCast_le_rounded (by omega) (by push_cast; linarith)

theorem le_places_add_of_margin (hupper : |b| < 1024) (h : |b| ≤ 10 ^ i * (1 - 1 / 2 ^ 40)) :
    digits ≤ places x digits + i := by
  rcases le_or_gt digits i with hle | hlt
  · omega
  obtain ⟨k, rfl⟩ := Nat.exists_eq_add_of_le' hlt.le
  have hlogarithm := (isLogarithm_of_half_le hx hlower).le_margin hlower hupper h
  refine Nat.add_le_add_right (le_places_of_le_sub hx hlower hdigits
    (rounded_add_margin (k := k) (by omega)) ?_ ?_) i
  · push_cast
    linarith
  · exact natCast_le_rounded (by omega) (by linarith)

theorem le_places_add_of_many (hi : i < 4) (hmany : i + 5 ≤ digits) (h : |b| ≤ 10 ^ i) :
    digits ≤ places x digits + i := by
  obtain ⟨k, rfl⟩ := Nat.exists_eq_add_of_le' (by omega : i ≤ digits)
  have hlogarithm := (isLogarithm_of_half_le hx hlower).of_le_pow_ten hi h
  refine Nat.add_le_add_right (le_places_of_le_sub hx hlower hdigits
    (rounded_natCast (k := k) (by omega)) ?_ ?_) i
  · push_cast
    linarith
  · rw [rounded_sub_slack (by omega) (by omega)]

end Bounds

/-- What the decimal places `n` of a number can be. At a power of ten and next to it they may be
one off, on the side that the slack decides if it shows and the rounding of the logarithm if
not. -/
structure Placed (b : ℚ) (digits n : Nat) : Prop where
  le : n ≤ digits
  add_le : ∀ i < 4, i ≤ digits → 10 ^ i ≤ b → n + i ≤ digits
  add_lt_of_margin : ∀ i < digits, 10 ^ i * (1 + 1 / 2 ^ 40) ≤ b → n + i < digits
  add_lt_of_few : ∀ i < 4, i < digits → digits ≤ i + 4 → 10 ^ i ≤ b → n + i < digits
  le_add_succ : ∀ i < 4, b ≤ 10 ^ i → digits ≤ n + i + 1
  le_add_of_margin : ∀ i, b ≤ 10 ^ i * (1 - 1 / 2 ^ 40) → digits ≤ n + i
  le_add_of_many : ∀ i < 4, i + 5 ≤ digits → b ≤ 10 ^ i → digits ≤ n + i

theorem placed_places {x : Binary .double} {b : ℚ} {digits : Nat} (hx : x.toRat? = some b)
    (hrange : InRange |b|) (hdigits : digits ≤ 1000) : Placed |b| digits (places x digits) := by
  have hlower : 1 / 2 ≤ |b| := le_trans (by norm_num) hrange.lower
  have hupper : |b| < 1024 := hrange.upper.trans_lt (by norm_num)
  exact
    { le := places_le hx hlower hdigits
      add_le := fun _ => places_add_le hx hlower hdigits
      add_lt_of_margin := fun _ => places_add_lt_of_margin hx hlower hdigits hupper
      add_lt_of_few := fun _ => places_add_lt_of_few hx hlower hdigits
      le_add_succ := fun _ => le_places_add_succ hx hlower hdigits
      le_add_of_margin := fun _ => le_places_add_of_margin hx hlower hdigits hupper
      le_add_of_many := fun _ => le_places_add_of_many hx hlower hdigits }

end Engineering

end Metrology
