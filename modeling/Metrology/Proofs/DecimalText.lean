import Mathlib.Algebra.Order.Field.Rat
import Metrology.Binary.Text
import Metrology.Proofs.JsonWriting
import Metrology.Proofs.Rounding

namespace Metrology

theorem tenPow_eq (n : Nat) : tenPow n = 10 ^ n :=
  rfl

/-- An integer nearest to a number, and of two nearest ones the even one. -/
structure RoundsTo (y : ℚ) (m : Nat) : Prop where
  close : |(m : ℚ) - y| ≤ 1 / 2
  even : |(m : ℚ) - y| = 1 / 2 → Even m

namespace RoundsTo

variable {y : ℚ} {m k : Nat}

theorem lt (h : RoundsTo y m) (hy : y < k - 1 / 2) : m < k := by
  by_contra! hle
  have hcast : (k : ℚ) ≤ m := by exact_mod_cast hle
  linarith [(abs_le.mp h.close).2]

theorem le_of_even (h : RoundsTo y m) (hk : Even k) (hy : k - 1 / 2 ≤ y) : k ≤ m := by
  by_contra! hlt
  have hcast : (m : ℚ) + 1 ≤ k := by exact_mod_cast hlt
  have hlower := (abs_le.mp h.close).1
  have htie : |(m : ℚ) - y| = 1 / 2 := by
    rw [abs_of_nonpos] <;> linarith
  have hsucc : m + 1 = k := by
    have : (m : ℚ) + 1 = k := by linarith
    exact_mod_cast this
  rw [← hsucc, Nat.even_add_one] at hk
  exact hk (h.even htie)

end RoundsTo

theorem roundDiv_cases (num : Nat) {den : Nat} (hden : 0 < den) :
    2 * (roundDiv num den * den) < 2 * num + den ∧ 2 * num < 2 * (roundDiv num den * den) + den ∨
      (2 * (roundDiv num den * den) = 2 * num + den ∨
        2 * num = 2 * (roundDiv num den * den) + den) ∧
        roundDiv num den % 2 = 0 := by
  have hdivision := Nat.div_add_mod' num den
  have hremainder := Nat.mod_lt num hden
  unfold roundDiv
  dsimp only
  split
  · omega
  · split
    · rw [Nat.add_mul]
      omega
    · rcases Nat.mod_two_eq_zero_or_one (num / den) with heven | hodd
      · rw [heven, Nat.add_zero]
        omega
      · rw [hodd, Nat.add_mul]
        omega

theorem roundsTo_roundDiv (num : Nat) {den : Nat} (hden : 0 < den) :
    RoundsTo (num / den) (roundDiv num den) := by
  have hden' : (0 : ℚ) < den := Nat.cast_pos.mpr hden
  have hcases := roundDiv_cases num hden
  generalize roundDiv num den = m at hcases ⊢
  have hdifference : (m : ℚ) - num / den = (m * den - num) / den := by
    field_simp
  rcases hcases with ⟨hlower, hupper⟩ | ⟨htie, heven⟩
  · have hlower' : 2 * (m * den : ℚ) < 2 * num + den := by exact_mod_cast hlower
    have hupper' : (2 * num : ℚ) < 2 * (m * den) + den := by exact_mod_cast hupper
    have hlt : |(m : ℚ) - num / den| < 1 / 2 := by
      rw [hdifference, abs_lt, lt_div_iff₀ hden', div_lt_iff₀ hden']
      constructor <;> linarith
    exact ⟨hlt.le, fun h => absurd h hlt.ne⟩
  · have htie' : |(m : ℚ) - num / den| = 1 / 2 := by
      rw [hdifference, abs_div, abs_of_pos hden', div_eq_iff hden'.ne']
      rcases htie with htie | htie
      · have hcast : 2 * (m * den : ℚ) = 2 * num + den := by exact_mod_cast htie
        rw [abs_of_nonneg] <;> linarith
      · have hcast : (2 * num : ℚ) = 2 * (m * den) + den := by exact_mod_cast htie
        rw [abs_of_nonpos] <;> linarith
    exact ⟨htie'.le, fun _ => Nat.even_iff.mpr heven⟩

namespace Decimal

/-- The digits of a number's text from the first that is not zero. -/
def significantDigits (text : String) : List Char :=
  (text.toList.filter Char.isDigit).dropWhile (· == '0')

def isSign (c : Char) : Bool :=
  c == '+' || c == '-'

/-- The digits of a number's text before the point, after the sign. -/
def wholeDigits (text : String) : List Char :=
  (text.toList.dropWhile isSign).takeWhile Char.isDigit

/-- The text starts with a digit, or with a sign and a digit. -/
def startsWithNumber (text : String) : Bool :=
  match text.toList with
  | [] => false
  | c :: rest => if isSign c then rest.head?.any Char.isDigit else c.isDigit

theorem length_digits_le_iff {n k : Nat} (hk : 0 < k) : (digits n).length ≤ k ↔ n < 10 ^ k := by
  unfold digits
  rw [Nat.toList_repr]
  exact Nat.length_toDigits_le_iff (by decide) hk

theorem length_digits_pos (n : Nat) : 0 < (digits n).length :=
  List.length_pos_iff.mpr (digits_ne_nil n)

theorem lt_length_digits_iff {n k : Nat} (hk : 0 < k) : k < (digits n).length ↔ 10 ^ k ≤ n := by
  rw [← not_le, length_digits_le_iff hk, not_lt]

/-- The digits, with zeros in front so that there is one before the point. -/
def padded (n places : Nat) : List Char :=
  List.replicate (places + 1 - (digits n).length) '0' ++ digits n

def wholePart (n places : Nat) : List Char :=
  (padded n places).take ((padded n places).length - places)

def fraction (n places : Nat) : List Char :=
  (padded n places).drop ((padded n places).length - places)

theorem length_padded (n places : Nat) :
    (padded n places).length = max (places + 1) (digits n).length := by
  rw [padded, List.length_append, List.length_replicate]
  omega

theorem length_wholePart (n places : Nat) :
    (wholePart n places).length = max 1 ((digits n).length - places) := by
  rw [wholePart, List.length_take, length_padded]
  omega

theorem length_fraction (n places : Nat) : (fraction n places).length = places := by
  rw [fraction, List.length_drop, length_padded]
  omega

theorem isDigit_of_mem_padded {n places : Nat} {c : Char} (h : c ∈ padded n places) :
    c.isDigit = true := by
  rcases List.mem_append.mp h with hzero | hdigit
  · rw [List.eq_of_mem_replicate hzero]
    rfl
  · exact isDigit_of_mem_digits hdigit

theorem wholePart_append_fraction (n places : Nat) :
    wholePart n places ++ fraction n places = padded n places :=
  List.take_append_drop _ _

theorem isDigit_of_mem_wholePart {n places : Nat} {c : Char} (h : c ∈ wholePart n places) :
    c.isDigit = true :=
  isDigit_of_mem_padded (List.mem_of_mem_take h)

theorem isDigit_of_mem_fraction {n places : Nat} {c : Char} (h : c ∈ fraction n places) :
    c.isDigit = true :=
  isDigit_of_mem_padded (List.mem_of_mem_drop h)

theorem fraction_zero (n : Nat) : fraction n 0 = [] :=
  List.drop_length

theorem wholePart_zero (n : Nat) : wholePart n 0 = digits n := by
  have h := wholePart_append_fraction n 0
  rwa [fraction_zero, List.append_nil, padded, Nat.sub_eq_zero_of_le (length_digits_pos n)] at h

theorem toList_pointed (n places : Nat) :
    (pointed n places).toList =
      wholePart n places ++ if places = 0 then [] else '.' :: fraction n places := by
  unfold pointed
  split_ifs with hplaces
  · rw [hplaces, wholePart_zero, List.append_nil, digits]
  · simp [wholePart, fraction, padded]

theorem filter_toList_pointed (n places : Nat) :
    (pointed n places).toList.filter Char.isDigit = padded n places := by
  have hwhole : (wholePart n places).filter Char.isDigit = wholePart n places :=
    List.filter_eq_self.mpr fun _ => isDigit_of_mem_wholePart
  have hfraction : (fraction n places).filter Char.isDigit = fraction n places :=
    List.filter_eq_self.mpr fun _ => isDigit_of_mem_fraction
  rw [toList_pointed, List.filter_append, hwhole, ← wholePart_append_fraction]
  split_ifs with hplaces
  · rw [hplaces, fraction_zero, List.filter_nil]
  · rw [List.filter_cons_of_neg (by decide), hfraction]

theorem dropWhile_padded {n : Nat} (hn : 0 < n) (places : Nat) :
    (padded n places).dropWhile (· == '0') = digits n := by
  rw [padded, List.dropWhile_append_of_pos (by simp)]
  cases hdigits : digits n with
  | nil => rfl
  | cons c rest =>
      have hc : (c == '0') = false := by
        rw [beq_eq_false_iff_ne]
        rintro rfl
        exact hn.ne' (eq_zero_of_head?_digits (by rw [hdigits]; rfl))
      rw [List.dropWhile_cons_of_neg (by simp [hc])]

theorem wholePart_ne_nil (n places : Nat) : wholePart n places ≠ [] := by
  rw [← List.length_pos_iff, length_wholePart]
  omega

theorem takeWhile_toList_pointed (n places : Nat) :
    (pointed n places).toList.takeWhile Char.isDigit = wholePart n places := by
  rw [toList_pointed]
  refine (span_word (List.all_eq_true.mpr fun _ => isDigit_of_mem_wholePart) ?_).1
  split_ifs <;> rfl

/-- The sign that a number's text may have. -/
def IsSignText (sign : String) : Prop :=
  sign = "" ∨ sign = "+" ∨ sign = "-"

theorem significantDigits_pointed {sign : String} (hsign : IsSignText sign) {n : Nat} (hn : 0 < n)
    (places : Nat) : significantDigits (sign ++ pointed n places) = digits n := by
  have hfilter : sign.toList.filter Char.isDigit = [] := by
    rcases hsign with rfl | rfl | rfl <;> rfl
  rw [significantDigits, String.toList_append, List.filter_append, hfilter, List.nil_append,
    filter_toList_pointed, dropWhile_padded hn]

theorem exists_toList_pointed (n places : Nat) :
    ∃ c rest, (pointed n places).toList = c :: rest ∧ c.isDigit = true := by
  cases hwhole : wholePart n places with
  | nil => exact absurd hwhole (wholePart_ne_nil n places)
  | cons c rest =>
      have hc : c.isDigit = true :=
        isDigit_of_mem_wholePart (by rw [hwhole]; exact List.mem_cons_self)
      rw [toList_pointed, hwhole, List.cons_append]
      exact ⟨c, _, rfl, hc⟩

theorem isSign_of_isDigit {c : Char} (h : c.isDigit = true) : isSign c = false := by
  rw [← Bool.not_eq_true]
  intro hsign
  rcases (Bool.or_eq_true _ _).mp hsign with heq | heq
  · rw [beq_iff_eq.mp heq] at h
    contradiction
  · rw [beq_iff_eq.mp heq] at h
    contradiction

theorem wholeDigits_pointed {sign : String} (hsign : IsSignText sign) (n places : Nat) :
    wholeDigits (sign ++ pointed n places) = wholePart n places := by
  obtain ⟨c, rest, htext, hc⟩ := exists_toList_pointed n places
  have hdrop : (pointed n places).toList.dropWhile isSign = (pointed n places).toList := by
    rw [htext, List.dropWhile_cons_of_neg (by simp [isSign_of_isDigit hc])]
  have hsign' : sign.toList.all isSign = true := by
    rcases hsign with rfl | rfl | rfl <;> rfl
  rw [wholeDigits, String.toList_append,
    List.dropWhile_append_of_pos (List.all_eq_true.mp hsign'), hdrop, takeWhile_toList_pointed]

theorem startsWithNumber_pointed {sign : String} (hsign : IsSignText sign) (n places : Nat)
    (rest : String) : startsWithNumber (sign ++ pointed n places ++ rest) = true := by
  obtain ⟨c, cs, htext, hc⟩ := exists_toList_pointed n places
  unfold startsWithNumber
  rw [String.toList_append, String.toList_append, htext]
  rcases hsign with rfl | rfl | rfl
  · simp [isSign_of_isDigit hc, hc]
  · simp [isSign, hc]
  · simp [isSign, hc]

theorem startsWithNumber_inf {sign : String} (hsign : IsSignText sign) (rest : String) :
    startsWithNumber (sign ++ "inf" ++ rest) = false := by
  unfold startsWithNumber
  rw [String.toList_append, String.toList_append]
  rcases hsign with rfl | rfl | rfl <;> rfl

end Decimal

namespace Spec

theorem number_of_width_zero {spec : Spec} (hwidth : spec.width = 0) (hzero : spec.zero = false)
    (halign : spec.align = none) (sign body : String) : spec.number sign body = sign ++ body := by
  simp [Spec.number, Spec.pad, Spec.repeated, hwidth, hzero, halign]

theorem isSignText_sign (spec : Spec) (negative : Bool) :
    Decimal.IsSignText (spec.sign negative) := by
  unfold Spec.sign
  split_ifs <;> simp [Decimal.IsSignText]

end Spec

namespace Binary

variable {p : Precision}

theorem display_finite (plus negative : Bool) (code : Fin p.count) (places : Nat) :
    (finite negative code).display { plus := plus, precision := some places } =
      ({ plus := plus } : Spec).sign negative ++ fixedText code places := by
  rw [display, text, if_neg (by simp), Spec.number_of_width_zero rfl rfl rfl]
  rfl

theorem display_infinite (plus negative : Bool) (places : Nat) :
    (infinite negative : Binary p).display { plus := plus, precision := some places } =
      ({ plus := plus } : Spec).sign negative ++ "inf" := by
  rw [display, text, if_neg (by simp), Spec.number_of_width_zero rfl rfl rfl]
  rfl

/-- A finite number with decimal places is written as the nearest whole number of last places. -/
theorem exists_display {x : Binary p} {a : ℚ} (hx : x.toRat? = some a) (plus : Bool)
    (places : Nat) :
    ∃ sign n,
      x.display { plus := plus, precision := some places } = sign ++ Decimal.pointed n places ∧
      Decimal.IsSignText sign ∧ RoundsTo (|a| * 10 ^ places) n := by
  obtain ⟨negative, code, rfl, rfl⟩ := exists_finite_of_toRat? hx
  refine ⟨_, _, display_finite plus negative code places, Spec.isSignText_sign _ _, ?_⟩
  have h := roundsTo_roundDiv (p.units code * tenPow places) (Nat.two_pow_pos p.places)
  have hvalue : ((p.units code * tenPow places : Nat) : ℚ) / (2 ^ p.places : Nat) =
      |withSign negative (p.magnitude code)| * 10 ^ places := by
    rw [abs_withSign, abs_of_nonneg (p.magnitude_nonneg _), Precision.magnitude, tenPow_eq]
    push_cast
    ring
  rwa [hvalue] at h

end Binary

end Metrology
