import Metrology.Proofs.DecimalText
import Metrology.Proofs.EngineeringPlaces

namespace Metrology

namespace Engineering

section Count

variable {b : ℚ} {digits n m : Nat}

/-- The least number that rounds up to the power of ten, in as many digits as the numbers below it
have. -/
def carryPoint (digits i : Nat) : ℚ :=
  10 ^ i - 10 ^ i / (2 * 10 ^ digits)

/-- The number does not round up to a power of ten, and where it is at one or above, it is by a
margin or the slack shows. -/
def Clear (b : ℚ) (digits : Nat) : Prop :=
  ∀ i < 4, b < carryPoint digits i ∨
    i < digits ∧ 10 ^ i * (if digits ≤ i + 4 then 1 else 1 + 1 / 2 ^ 40) ≤ b

/-- The number rounds up to a power of ten, and its decimal places are those of the numbers
below. -/
def Overshoots (b : ℚ) (digits : Nat) : Prop :=
  ∃ i < 4, carryPoint digits i ≤ b ∧
    (digits ≤ i ∨ b ≤ 10 ^ i ∧ i + 5 ≤ digits ∨ b ≤ 10 ^ i * (1 - 1 / 2 ^ 40))

instance (b : ℚ) (digits : Nat) : Decidable (Clear b digits) :=
  inferInstanceAs (Decidable (∀ i < 4, _))

instance (b : ℚ) (digits : Nat) : Decidable (Overshoots b digits) :=
  inferInstanceAs (Decidable (∃ i < 4, _))

theorem carryPoint_lt (digits i : Nat) : carryPoint digits i < 10 ^ i := by
  have hpos : (0 : ℚ) < 10 ^ i / (2 * 10 ^ digits) := by positivity
  unfold carryPoint
  linarith

theorem even_pow_ten {k : Nat} (hk : k ≠ 0) : Even (10 ^ k) :=
  (by decide : Even 10).pow_of_ne_zero hk

theorem carryPoint_mul (digits i n : Nat) :
    carryPoint digits i * 10 ^ n = 10 ^ (n + i) - 10 ^ (n + i) / (2 * 10 ^ digits) := by
  unfold carryPoint
  rw [pow_add]
  ring

theorem lt_pow_of_lt_carryPoint {i : Nat} (hm : RoundsTo (b * 10 ^ n) m) (hi : digits ≤ n + i)
    (hb : b < carryPoint digits i) : m < 10 ^ (n + i) := by
  have hproduct := mul_lt_mul_of_pos_right hb (by positivity : (0 : ℚ) < 10 ^ n)
  rw [carryPoint_mul] at hproduct
  have hhalf : (1 / 2 : ℚ) ≤ 10 ^ (n + i) / (2 * 10 ^ digits) := by
    have hpow : (10 : ℚ) ^ digits ≤ 10 ^ (n + i) := pow_le_pow_right₀ (by norm_num) hi
    rw [div_le_div_iff₀ (by norm_num) (by positivity)]
    linarith
  apply hm.lt
  push_cast
  linarith

theorem pow_le_of_carryPoint_le {e i : Nat} (hm : RoundsTo (b * 10 ^ n) m) (he : e ≠ 0)
    (hdigits : e ≤ digits) (hi : e ≤ n + i) (hb : carryPoint digits i ≤ b) : 10 ^ e ≤ m := by
  have hproduct := mul_le_mul_of_nonneg_right hb (by positivity : (0 : ℚ) ≤ 10 ^ n)
  rw [carryPoint_mul] at hproduct
  have hone : (1 : ℚ) ≤ 10 ^ digits := one_le_pow₀ (by norm_num)
  have hfactor : (0 : ℚ) ≤ 1 - 1 / (2 * 10 ^ digits) := by
    rw [sub_nonneg, div_le_one (by positivity)]
    linarith
  have hhalf : (10 : ℚ) ^ e / (2 * 10 ^ digits) ≤ 1 / 2 := by
    have hpow : (10 : ℚ) ^ e ≤ 10 ^ digits := pow_le_pow_right₀ (by norm_num) hdigits
    rw [div_le_div_iff₀ (by positivity) (by norm_num)]
    linarith
  have hpow : (10 : ℚ) ^ e ≤ 10 ^ (n + i) := pow_le_pow_right₀ (by norm_num) hi
  apply hm.le_of_even (even_pow_ten he)
  push_cast
  calc (10 : ℚ) ^ e - 1 / 2 ≤ 10 ^ e - 10 ^ e / (2 * 10 ^ digits) := by linarith
    _ = 10 ^ e * (1 - 1 / (2 * 10 ^ digits)) := by ring
    _ ≤ 10 ^ (n + i) * (1 - 1 / (2 * 10 ^ digits)) := mul_le_mul_of_nonneg_right hpow hfactor
    _ = 10 ^ (n + i) - 10 ^ (n + i) / (2 * 10 ^ digits) := by ring
    _ ≤ b * 10 ^ n := hproduct

/-- A scaled number has one to three digits before the point, or none or four where it is rounded
out of range. -/
theorem InRange.exists_position (h : InRange b) :
    ∃ i ≤ 4, b < 10 ^ i ∧ ∀ j < i, 10 ^ j ≤ b := by
  have hbound : b < 10 ^ 4 := h.upper.trans_lt (by norm_num)
  have hexists : ∃ i, b < 10 ^ i := ⟨4, hbound⟩
  exact ⟨Nat.find hexists, Nat.find_min' hexists hbound, Nat.find_spec hexists,
    fun j hj => not_lt.mp (Nat.find_min hexists hj)⟩

theorem InRange.lt_pow_add_four (h : InRange b) (hm : RoundsTo (b * 10 ^ n) m) :
    m < 10 ^ (n + 4) := by
  have hn : (1 : ℚ) ≤ 10 ^ n := one_le_pow₀ (by norm_num)
  apply hm.lt
  have hproduct := mul_le_mul_of_nonneg_right h.upper (by linarith : (0 : ℚ) ≤ 10 ^ n)
  push_cast
  rw [pow_add]
  linarith

namespace Placed

variable {i : Nat}

theorem digits_le_add_succ (h : Placed b digits n) (hrange : InRange b) (hi : i ≤ 4)
    (hb : b < 10 ^ i) : digits ≤ n + i + 1 := by
  rcases hi.eq_or_lt with rfl | hi
  · have := h.le_add_of_margin 4 (hrange.upper.trans (by norm_num))
    omega
  · exact h.le_add_succ i hi hb.le

theorem add_le_digits_succ (h : Placed b digits n) (hdigits : 3 ≤ digits) (hi : i ≤ 4)
    (hb : ∀ j < i, 10 ^ j ≤ b) : n + i ≤ digits + 1 := by
  cases i with
  | zero => exact Nat.le_succ_of_le h.le
  | succ j =>
      have := h.add_le j (by omega) (by omega) (hb j (Nat.lt_succ_self j))
      omega

/-- The places are one short only just below a power of ten, where few digits are wanted. -/
theorem near_of_add_lt (h : Placed b digits n) (hrange : InRange b) (hi : i ≤ 4)
    (hb : b < 10 ^ i) (hearly : n + i < digits) :
    n + i + 1 = digits ∧ digits ≤ 8 ∧ 10 ^ i * (1 - 1 / 2 ^ 40) < b := by
  have hsucc := h.digits_le_add_succ hrange hi hb
  have hmargin : 10 ^ i * (1 - 1 / 2 ^ 40) < b := by
    by_contra! hle
    have := h.le_add_of_margin i hle
    omega
  have hi' : i < 4 := by
    rcases hi.lt_or_eq with hlt | rfl
    · exact hlt
    · exact absurd (hmargin.trans_le hrange.upper) (by norm_num)
  have hfew : ¬i + 5 ≤ digits := by
    intro hmany
    have := h.le_add_of_many i hi' hmany hb.le
    omega
  exact ⟨by omega, by omega, hmargin⟩

/-- The written number has at least the wanted digits. -/
theorem pow_le (h : Placed b digits n) (hrange : InRange b) (hdigits : 3 ≤ digits)
    (hm : RoundsTo (b * 10 ^ n) m) : 10 ^ (digits - 1) ≤ m := by
  obtain ⟨i, hi, hb, hprevious⟩ := hrange.exists_position
  have hn : (0 : ℚ) < 10 ^ n := by positivity
  apply hm.le_of_even (even_pow_ten (by omega))
  push_cast
  rcases Nat.lt_or_ge (n + i) digits with hearly | hlate
  · -- One place short, the number is so near to the power of ten that it rounds up to it.
    obtain ⟨heq, hfew, hmargin⟩ := h.near_of_add_lt hrange hi hb hearly
    have hpow : (10 : ℚ) ^ (digits - 1) = 10 ^ i * 10 ^ n := by
      rw [← pow_add, ← heq, Nat.add_sub_cancel, Nat.add_comm]
    have hsmall : (10 : ℚ) ^ (digits - 1) ≤ 10 ^ 7 := pow_le_pow_right₀ (by norm_num) (by omega)
    have hproduct := mul_lt_mul_of_pos_right hmargin hn
    rw [mul_right_comm, ← hpow] at hproduct
    linarith
  · cases i with
    | zero =>
        have hpow : (10 : ℚ) ^ (digits - 1) * 10 ≤ 10 ^ n := by
          rw [← pow_succ]
          exact pow_le_pow_right₀ (by norm_num) (by omega)
        have hpos : (0 : ℚ) < 10 ^ (digits - 1) := by positivity
        have hproduct := mul_le_mul_of_nonneg_right hrange.lower hn.le
        linarith
    | succ j =>
        have hpow : (10 : ℚ) ^ (digits - 1) ≤ 10 ^ j * 10 ^ n := by
          rw [← pow_add]
          exact pow_le_pow_right₀ (by norm_num) (by omega)
        have hproduct := mul_le_mul_of_nonneg_right (hprevious j (Nat.lt_succ_self j)) hn.le
        linarith

/-- The places are one too many only at a power of ten or just above it. -/
theorem near_of_lt_add (h : Placed b digits n) (hrange : InRange b)
    (hdigits : 3 ≤ digits) (hi : i ≤ 4) (hb : ∀ j < i, 10 ^ j ≤ b) (hlate : digits < n + i) :
    ∃ j, n + j = digits ∧ b ≤ 10 ^ j * (1 + 1 / 2 ^ 40) := by
  have hsucc := h.add_le_digits_succ hdigits hi hb
  obtain ⟨j, rfl⟩ : ∃ j, i = j + 1 := by
    refine Nat.exists_eq_add_one.mpr (Nat.pos_of_ne_zero ?_)
    rintro rfl
    exact absurd h.le (by omega)
  refine ⟨j, by omega, ?_⟩
  rcases Nat.lt_or_ge j digits with hj | hj
  · by_contra! hlt
    have := h.add_lt_of_margin j hj hlt.le
    omega
  · obtain rfl : j = 3 := by omega
    exact hrange.upper.trans_eq (by norm_num)

/-- The written number has at most one digit more. -/
theorem lt_pow (h : Placed b digits n) (hrange : InRange b) (hdigits : 3 ≤ digits)
    (hm : RoundsTo (b * 10 ^ n) m) : m < 10 ^ (digits + 1) := by
  obtain ⟨i, hi, hb, hprevious⟩ := hrange.exists_position
  have hn : (0 : ℚ) < 10 ^ n := by positivity
  have hpos : (1 : ℚ) ≤ 10 ^ digits := one_le_pow₀ (by norm_num)
  apply hm.lt
  push_cast
  rw [pow_succ]
  rcases Nat.lt_or_ge digits (n + i) with hlate | hearly
  · obtain ⟨j, heq, hnear⟩ := h.near_of_lt_add hrange hdigits hi hprevious hlate
    have hpow : (10 : ℚ) ^ digits = 10 ^ j * 10 ^ n := by
      rw [← pow_add, ← heq, Nat.add_comm]
    have hproduct := mul_le_mul_of_nonneg_right hnear hn.le
    rw [mul_right_comm, ← hpow] at hproduct
    linarith
  · have hpow : (10 : ℚ) ^ i * 10 ^ n ≤ 10 ^ digits := by
      rw [← pow_add]
      exact pow_le_pow_right₀ (by norm_num) (by omega)
    have hproduct := mul_lt_mul_of_pos_right hb hn
    linarith

theorem add_le_of_clear (h : Placed b digits n) (hclear : Clear b digits) (hi : i ≤ 4)
    (hb : ∀ j < i, 10 ^ j ≤ b) : n + i ≤ digits := by
  cases i with
  | zero => exact h.le
  | succ j =>
      have hj := hb j (Nat.lt_succ_self j)
      rcases hclear j (by omega) with hbelow | ⟨hdigits, hmargin⟩
      · linarith [carryPoint_lt digits j]
      · split_ifs at hmargin with hfew
        · exact h.add_lt_of_few j (by omega) hdigits hfew hj
        · exact h.add_lt_of_margin j hdigits hmargin

theorem le_add_of_lt_carryPoint (h : Placed b digits n) (hi : i ≤ 3)
    (hb : b < carryPoint digits i) : digits ≤ n + i := by
  rcases le_or_gt b (10 ^ i * (1 - 1 / 2 ^ 40)) with hmargin | hnear
  · exact h.le_add_of_margin i hmargin
  · -- So near to the power of ten, only a rounding to many digits stays below it.
    have hlt : (10 : ℚ) ^ i / (2 * 10 ^ digits) < 10 ^ i / 2 ^ 40 := by
      unfold carryPoint at hb
      linarith
    rw [div_lt_div_iff_of_pos_left (by positivity) (by positivity) (by positivity)] at hlt
    have hmany : 12 ≤ digits := by
      by_contra! hfew
      have hpow : (10 : ℚ) ^ digits ≤ 10 ^ 11 := pow_le_pow_right₀ (by norm_num) (by omega)
      linarith
    exact h.le_add_of_many i (by omega) (by omega) (hb.trans (carryPoint_lt digits i)).le

/-- Where no power of ten is near, the written number has the wanted digits. -/
theorem lt_pow_of_clear (h : Placed b digits n) (hrange : InRange b)
    (hclear : Clear b digits) (hm : RoundsTo (b * 10 ^ n) m) : m < 10 ^ digits := by
  obtain ⟨i, hi, hb, hprevious⟩ := hrange.exists_position
  have hsum := h.add_le_of_clear hclear hi hprevious
  rcases hi.eq_or_lt with rfl | hlt
  · exact (hrange.lt_pow_add_four hm).trans_le (Nat.pow_le_pow_right (by norm_num) hsum)
  · have hcarry : b < carryPoint digits i := by
      rcases hclear i hlt with hcarry | ⟨-, hmargin⟩
      · exact hcarry
      · have hone : (1 : ℚ) ≤ if digits ≤ i + 4 then 1 else 1 + 1 / 2 ^ 40 := by
          split_ifs <;> norm_num
        have hpow := le_mul_of_one_le_right (by positivity : (0 : ℚ) ≤ 10 ^ i) hone
        linarith
    have heq := le_antisymm hsum (h.le_add_of_lt_carryPoint (Nat.le_of_lt_succ hlt) hcarry)
    rw [← heq]
    exact lt_pow_of_lt_carryPoint hm heq.ge hcarry

theorem pow_le_of_overshoots (h : Placed b digits n) (hdigits : 3 ≤ digits)
    (hovershoots : Overshoots b digits) (hm : RoundsTo (b * 10 ^ n) m) : 10 ^ digits ≤ m := by
  obtain ⟨i, hi, hcarry, hplaces⟩ := hovershoots
  have hsum : digits ≤ n + i := by
    rcases hplaces with hfew | ⟨hle, hmany⟩ | hmargin
    · omega
    · exact h.le_add_of_many i hi hmany hle
    · exact h.le_add_of_margin i hmargin
  exact pow_le_of_carryPoint_le hm (by omega) le_rfl hsum hcarry

/-- Three digits before the point are exceeded exactly where a number rounds up to a thousand. -/
theorem lt_pow_add_three_iff (h : Placed b digits n) (hdigits : 3 ≤ digits)
    (hm : RoundsTo (b * 10 ^ n) m) : m < 10 ^ (n + 3) ↔ b < carryPoint digits 3 := by
  constructor
  · intro hlt
    by_contra! hcarry
    have hsum : n + 3 ≤ digits := by
      rcases le_or_gt (10 ^ 3) b with hle | hbelow
      · exact h.add_le 3 (by norm_num) hdigits hle
      · have hpow : (10 : ℚ) ^ 3 ≤ 10 ^ digits := pow_le_pow_right₀ (by norm_num) hdigits
        have hhalf : (10 : ℚ) ^ 3 / (2 * 10 ^ digits) ≤ 1 / 2 := by
          rw [div_le_div_iff₀ (by positivity) (by norm_num)]
          linarith
        unfold carryPoint at hcarry
        exact h.add_lt_of_margin 2 (by omega) (by norm_num at hhalf hcarry ⊢; linarith)
    exact absurd (pow_le_of_carryPoint_le hm (by omega) hsum le_rfl hcarry) (not_le.mpr hlt)
  · intro hcarry
    exact lt_pow_of_lt_carryPoint hm (h.le_add_of_lt_carryPoint le_rfl hcarry) hcarry

end Placed

end Count

section Text

variable {value : Binary .double} {a x : ℚ} {format : Format}

theorem text_of_mantissa (hvalue : value.toRat? = some a) {number : String}
    (h : mantissa format value = .ok number) (unit : String) :
    text format value unit = .ok (number ++ tail format (degree value) unit) := by
  obtain ⟨negative, code, rfl, -⟩ := Binary.exists_finite_of_toRat? hvalue
  change (mantissa format _ >>= fun number => pure (number ++ tail format _ unit)) = _
  rw [h]
  rfl

theorem mantissa_of_places (h : places (scaled value) format.digits ≤ 65535) :
    mantissa format value = .ok ((scaled value).display
      { plus := format.showSign, precision := some (places (scaled value) format.digits) }) :=
  if_neg (Nat.not_lt.mpr h)

/-- The number in front of a finite scaled value is the nearest one with the decimal places. -/
theorem exists_mantissa (format : Format) (hscaled : (scaled value).toRat? = some x)
    (hplaces : places (scaled value) format.digits ≤ 65535) :
    ∃ sign m, mantissa format value =
      .ok (sign ++ Decimal.pointed m (places (scaled value) format.digits)) ∧
      Decimal.IsSignText sign ∧ RoundsTo (|x| * 10 ^ places (scaled value) format.digits) m := by
  obtain ⟨sign, m, htext, hsign, hm⟩ := Binary.exists_display hscaled format.showSign
    (places (scaled value) format.digits)
  refine ⟨sign, m, ?_, hsign, hm⟩
  rw [mantissa_of_places hplaces, htext]

theorem placed_scaled (hvalue : value.toRat? = some a) (hreach : reach ≤ |a|)
    (hdigits : format.digits ≤ 1000) :
    ∃ x, (scaled value).toRat? = some x ∧ InRange |x| ∧
      |x * 1000 ^ degree value - a| ≤ |a| / 2 ^ 48 ∧
      Placed |x| format.digits (places (scaled value) format.digits) := by
  have ha : a ≠ 0 := abs_pos.mp (reach_pos.trans_le hreach)
  obtain ⟨x, hx, hrange, hclose⟩ :=
    toRat?_scaled hvalue ha ((neg_le_degree_iff hvalue ha).mpr hreach)
  exact ⟨x, hx, hrange, hclose, placed_places hx hrange hdigits⟩

theorem starts_of_reach (hvalue : value.toRat? = some a) (hreach : a = 0 ∨ reach ≤ |a|)
    (hdigits : format.digits ≤ 1000) (unit : String) :
    (∃ x, (scaled value).toRat? = some x) ∧
      ∃ t, text format value unit = .ok t ∧ Decimal.startsWithNumber t = true := by
  have hscaled : ∃ x, (scaled value).toRat? = some x ∧
      places (scaled value) format.digits ≤ format.digits := by
    rcases hreach with rfl | hreach
    · exact ⟨0, scaled_of_zero hvalue, places_of_zero (scaled_of_zero hvalue) hdigits⟩
    · obtain ⟨x, hx, -, -, hplaced⟩ := placed_scaled hvalue hreach hdigits
      exact ⟨x, hx, hplaced.le⟩
  obtain ⟨x, hx, hplaces⟩ := hscaled
  obtain ⟨sign, m, hmantissa, hsign, -⟩ := exists_mantissa format hx (by omega)
  exact ⟨⟨x, hx⟩, _, text_of_mantissa hvalue hmantissa unit,
    Decimal.startsWithNumber_pointed hsign _ _ _⟩

theorem text_of_not_reach (hvalue : value.toRat? = some a) (ha : a ≠ 0) (hreach : ¬reach ≤ |a|)
    (hdigits : format.digits ≤ 1000) (unit : String) :
    text format value unit =
      .ok (({ plus := format.showSign } : Spec).sign value.isNegative ++ "inf" ++
        tail format (degree value) unit) := by
  have hscaled := scaled_of_not_reach hvalue ha hreach
  have hplaces := places_of_infinite value.isNegative hdigits
  apply text_of_mantissa hvalue
  rw [mantissa_of_places (by rw [hscaled, hplaces]; norm_num), hscaled, hplaces,
    Binary.display_infinite]

/-- For every finite value there is a text. The scaled value is finite, and the text starts with a
number, exactly for zero and the values in reach; the text of a smaller value starts with the word
for infinity. -/
theorem text_starts_with_number_iff (format : Format) (hdigits : format.digits ≤ 1000)
    (unit : String) (hvalue : value.toRat? = some a) :
    ((∃ x, (scaled value).toRat? = some x) ↔ a = 0 ∨ reach ≤ |a|) ∧
      ∃ t, text format value unit = .ok t ∧
        (Decimal.startsWithNumber t = true ↔ a = 0 ∨ reach ≤ |a|) ∧
        (¬(a = 0 ∨ reach ≤ |a|) →
          t = ({ plus := format.showSign } : Spec).sign value.isNegative ++ "inf" ++
            tail format (degree value) unit) := by
  by_cases hreach : a = 0 ∨ reach ≤ |a|
  · obtain ⟨hscaled, t, htext, hstarts⟩ := starts_of_reach hvalue hreach hdigits unit
    exact ⟨iff_of_true hscaled hreach, t, htext, iff_of_true hstarts hreach, absurd hreach⟩
  · have hsmall := not_or.mp hreach
    have hscaled : ¬∃ x, (scaled value).toRat? = some x := by
      rintro ⟨x, hx⟩
      rw [scaled_of_not_reach hvalue hsmall.1 hsmall.2] at hx
      cases hx
    refine ⟨iff_of_false hscaled hreach, _,
      text_of_not_reach hvalue hsmall.1 hsmall.2 hdigits unit, iff_of_false ?_ hreach,
      fun _ => rfl⟩
    rw [Decimal.startsWithNumber_inf (Spec.isSignText_sign _ _)]
    exact Bool.false_ne_true

/-- The least value in reach, and the value before it. -/
theorem text_starts_with_number_iff_reach :
    (∃ t, text {} (Binary.ofBits .double reachCode) "m" = .ok t ∧
      Decimal.startsWithNumber t = true) ∧
    ∃ t, text {} (Binary.ofBits .double (reachCode - 1)) "m" = .ok t ∧
      ¬Decimal.startsWithNumber t = true := by
  constructor
  · obtain ⟨-, t, htext, hstarts, -⟩ := text_starts_with_number_iff {} (by decide) "m"
      (by decide +kernel : (Binary.ofBits .double reachCode).toRat? = some reach)
    exact ⟨t, htext, hstarts.mpr (.inr (by decide +kernel))⟩
  · obtain ⟨-, t, htext, hstarts, -⟩ := text_starts_with_number_iff {} (by decide) "m"
      (by decide +kernel : (Binary.ofBits .double (reachCode - 1)).toRat? =
        some (Precision.magnitude .double (reachCode - 1)))
    exact ⟨t, htext, hstarts.not.mpr (by decide +kernel)⟩

/-- For every value in reach the number in front has the wanted significant digits or one more,
and one to four digits before the point. There are four exactly where the scaled value rounds up
to a thousand. Where no power of ten is near there are no digits too many, and where the scaled
value rounds up to a power of ten with the decimal places of the numbers below it, there is
one. -/
theorem mantissa_significant_digits (format : Format) (hlower : 3 ≤ format.digits)
    (hupper : format.digits ≤ 1000) (unit : String) (hvalue : value.toRat? = some a)
    (hreach : reach ≤ |a|) :
    ∃ x number, (scaled value).toRat? = some x ∧ InRange |x| ∧
      |x * 1000 ^ degree value - a| ≤ |a| / 2 ^ 48 ∧
      text format value unit = .ok (number ++ tail format (degree value) unit) ∧
      ((Decimal.significantDigits number).length = format.digits ∨
        (Decimal.significantDigits number).length = format.digits + 1) ∧
      (1 ≤ (Decimal.wholeDigits number).length ∧ (Decimal.wholeDigits number).length ≤ 4) ∧
      ((Decimal.wholeDigits number).length ≤ 3 ↔ |x| < carryPoint format.digits 3) ∧
      (Clear |x| format.digits → (Decimal.significantDigits number).length = format.digits) ∧
      (Overshoots |x| format.digits →
        (Decimal.significantDigits number).length = format.digits + 1) := by
  obtain ⟨x, hx, hrange, hclose, hplaced⟩ := placed_scaled hvalue hreach hupper
  have hplaces := hplaced.le
  obtain ⟨sign, m, hmantissa, hsign, hm⟩ := exists_mantissa format hx (by omega)
  have hpow := hplaced.pow_le hrange hlower hm
  have hpos : 0 < m := (Nat.pow_pos (by norm_num)).trans_le hpow
  have hlt := hplaced.lt_pow hrange hlower hm
  have hfour := hrange.lt_pow_add_four hm
  have hthree := hplaced.lt_pow_add_three_iff hlower hm
  rw [← Decimal.lt_length_digits_iff (by omega)] at hpow
  rw [← Decimal.length_digits_le_iff (by omega)] at hlt hfour hthree
  refine ⟨x, _, hx, hrange, hclose, text_of_mantissa hvalue hmantissa unit, ?_⟩
  rw [Decimal.significantDigits_pointed hsign hpos, Decimal.wholeDigits_pointed hsign,
    Decimal.length_wholePart, ← hthree]
  refine ⟨by omega, by omega, by omega, fun hclear => ?_, fun hovershoots => ?_⟩
  · have hle := hplaced.lt_pow_of_clear hrange hclear hm
    rw [← Decimal.length_digits_le_iff (by omega)] at hle
    omega
  · have hlt' := hplaced.pow_le_of_overshoots hlower hovershoots hm
    rw [← Decimal.lt_length_digits_iff (by omega)] at hlt'
    omega

/-- With three digits one is written with three, with five it is written with six. -/
theorem mantissa_significant_digits_one :
    (∃ number, text {} Binary.one "m" = .ok (number ++ tail {} (degree Binary.one) "m") ∧
      (Decimal.significantDigits number).length = 3) ∧
    ∃ number, text { digits := 5 } Binary.one "m" =
        .ok (number ++ tail { digits := 5 } (degree Binary.one) "m") ∧
      (Decimal.significantDigits number).length = 6 := by
  have hone : (Binary.one : Binary .double).toRat? = some 1 := by
    decide +kernel
  have hreach : reach ≤ |1| := by
    decide +kernel
  have hscaled : (scaled Binary.one).toRat? = some 1 := by
    decide +kernel
  constructor
  · obtain ⟨x, number, hx, -, -, htext, -, -, -, hclear, -⟩ :=
      mantissa_significant_digits {} (by decide) (by decide) "m" hone hreach
    obtain rfl := Option.some.inj (hscaled.symm.trans hx)
    exact ⟨number, htext, hclear (by decide +kernel)⟩
  · obtain ⟨x, number, hx, -, -, htext, -, -, -, -, hovershoots⟩ :=
      mantissa_significant_digits { digits := 5 } (by decide) (by decide) "m" hone hreach
    obtain rfl := Option.some.inj (hscaled.symm.trans hx)
    exact ⟨number, htext, hovershoots (by decide +kernel)⟩

end Text

end Engineering

end Metrology
