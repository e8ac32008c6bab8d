import Metrology.Proofs.DecimalReading
import Metrology.Proofs.JsonIntegers

namespace Metrology

namespace Json

namespace Literal

variable {l : Literal} {ds rest : List Char} {fraction : Option (List Char)}
  {exponent : Option (Bool × List Char)}

section Scan

structure IsDigits (ds : List Char) : Prop where
  ne_nil : ds ≠ []
  isDigit : ∀ c ∈ ds, c.isDigit = true

def fractionText : Option (List Char) → List Char
  | none => []
  | some ds => '.' :: ds

/-- An exponent as it is written: it always has a sign. -/
def exponentText : Option (Bool × List Char) → List Char
  | none => []
  | some (negative, ds) => 'e' :: (if negative then '-' else '+') :: ds

def text (l : Literal) : List Char :=
  signedDigits l.negative (l.whole ++ (fractionText l.fraction ++ exponentText l.exponent))

structure WellFormed (l : Literal) : Prop where
  whole : IsNumeral l.whole
  fraction : ∀ ds ∈ l.fraction, IsDigits ds
  exponent : ∀ power ∈ l.exponent, IsDigits power.2

theorem scanDigits?_append (hds : IsDigits ds) (hrest : rest.head?.any Char.isDigit = false) :
    scanDigits? (ds ++ rest) = some (ds, rest) :=
  scanDigits?_eq_some_iff.mpr ⟨hds.ne_nil, hds.isDigit, rfl, hrest⟩

theorem scanPower_append (negative : Bool) (hds : IsDigits ds)
    (hrest : rest.head?.any Char.isDigit = false) :
    scanPower ((if negative then '-' else '+') :: (ds ++ rest)) =
      some ((negative, ds), rest) := by
  have hscan := scanDigits?_append hds hrest
  cases negative <;> simp [scanPower, hscan]

theorem scanExponent_append (hexponent : ∀ power ∈ exponent, IsDigits power.2)
    (hrest : Ends rest) :
    scanExponent (exponentText exponent ++ rest) = some (exponent, rest) := by
  cases exponent with
  | none => exact scanExponent_of_ends hrest
  | some power =>
      obtain ⟨negative, ds⟩ := power
      have hscan := scanPower_append negative (hexponent _ rfl) (ends_iff.mp hrest).1
      simp [exponentText, scanExponent, hscan]

theorem head?_exponentText_append (exponent : Option (Bool × List Char)) (hrest : Ends rest) :
    (exponentText exponent ++ rest).head?.any Char.isDigit = false ∧
      ∀ c ∈ (exponentText exponent ++ rest).head?, c ≠ '.' := by
  cases exponent with
  | none => exact ⟨(ends_iff.mp hrest).1, (ends_iff.mp hrest).2.1⟩
  | some power =>
      refine ⟨rfl, fun c hc => ?_⟩
      obtain rfl : 'e' = c := by simpa [exponentText] using hc
      decide

theorem scanFraction_append (hfraction : ∀ ds ∈ fraction, IsDigits ds)
    (hrest : rest.head?.any Char.isDigit = false) (hpoint : ∀ c ∈ rest.head?, c ≠ '.') :
    scanFraction (fractionText fraction ++ rest) = some (fraction, rest) := by
  cases fraction with
  | none => exact scanFraction_eq_none_iff.mpr ⟨rfl, hpoint⟩
  | some ds =>
      have hscan := scanDigits?_append (hfraction ds rfl) hrest
      simp [fractionText, scanFraction, hscan]

theorem head?_fractionText_append (fraction : Option (List Char))
    (hrest : rest.head?.any Char.isDigit = false) :
    (fractionText fraction ++ rest).head?.any Char.isDigit = false := by
  cases fraction with
  | none => exact hrest
  | some ds => rfl

theorem scanUnsigned_text (h : l.WellFormed) (hrest : Ends rest) :
    scanUnsigned l.negative
      (l.whole ++ (fractionText l.fraction ++ exponentText l.exponent) ++ rest) =
      some (l, rest) := by
  obtain ⟨hdigit, hpoint⟩ := head?_exponentText_append l.exponent hrest
  have hexponent := scanExponent_append h.exponent hrest
  have hfraction := scanFraction_append h.fraction hdigit hpoint
  have hwhole := scanWhole_eq_some_iff.mpr
    ⟨h.whole, rfl, head?_fractionText_append l.fraction hdigit⟩
  rw [List.append_assoc, List.append_assoc]
  simp [scanUnsigned, hwhole, hfraction, hexponent]

theorem scan_text (h : l.WellFormed) (hrest : Ends rest) :
    scan (l.text ++ rest) = some (l, rest) := by
  have hscan := scanUnsigned_text h hrest
  unfold text signedDigits
  cases hnegative : l.negative with
  | true =>
      rw [hnegative] at hscan
      exact hscan
  | false =>
      rw [hnegative] at hscan
      have hhead := h.whole.head?_ne (fractionText l.fraction ++ exponentText l.exponent ++ rest)
      rw [if_neg (by decide)]
      rw [← List.append_assoc] at hhead
      rw [scan.eq_2 _ fun cs hcs => hhead (congrArg List.head? hcs)]
      exact hscan

theorem begins_text (h : l.WellFormed) : ∃ c cs, l.text = c :: cs ∧ Begins c := by
  have hscan := scan_text h (show Ends [] by simp [Ends])
  rw [List.append_nil] at hscan
  exact begins_of_scan hscan

end Scan

section Value

variable {negative : Bool} {q : ℚ} {d : Decimal}

/-- The literal stands for the value `q` with a sign, and is no integer. -/
structure Denotes (l : Literal) (negative : Bool) (q : ℚ) : Prop where
  wellFormed : l.WellFormed
  negative_eq : l.negative = negative
  integer?_eq : l.integer? = none
  value_eq : l.decimal.value = q

theorem Denotes.binary?_eq {p : Precision} {code : Fin p.count} (h : l.Denotes negative q)
    (hcode : p.codeOf q = code) : l.binary? p = some (.finite negative code) := by
  have hread : (Binary.ofDecimal negative l.decimal : Binary p) = .finite negative code := by
    rw [Binary.ofDecimal_eq_finite_iff, h.value_eq, hcode]
  unfold binary?
  rw [h.integer?_eq, h.negative_eq]
  simp only [hread]

theorem isDigits_digits (n : Nat) : IsDigits (Decimal.digits n) :=
  ⟨Decimal.digits_ne_nil n, fun _ => Decimal.isDigit_of_mem_digits⟩

/-- The part before the point has no leading zero but the one that stands alone. -/
theorem isNumeral_wholePart (n places : Nat) : IsNumeral (Decimal.wholePart n places) where
  ne_nil := Decimal.wholePart_ne_nil n places
  isDigit _ := Decimal.isDigit_of_mem_wholePart
  leading hhead := by
    have hlength := Decimal.length_wholePart n places
    rcases le_or_gt ((Decimal.digits n).length - places) 1 with hshort | hlong
    · obtain ⟨c, hc⟩ := List.length_eq_one_iff.mp (hlength.trans (max_eq_left hshort))
      rw [hc] at hhead ⊢
      rw [Option.some.inj hhead]
    · have hpadded : Decimal.padded n places = Decimal.digits n := by
        rw [Decimal.padded, Nat.sub_eq_zero_of_le (by omega)]
        rfl
      have hzero : n = 0 := by
        apply Decimal.eq_zero_of_head?_digits
        rw [← hpadded, ← Decimal.wholePart_append_fraction, List.head?_append, hhead]
        rfl
      rw [hzero] at hlong
      exact absurd hlong (by simp [Decimal.digits])

theorem isDigits_fraction (n : Nat) {places : Nat} (hplaces : places ≠ 0) :
    IsDigits (Decimal.fraction n places) where
  ne_nil := by
    rw [← List.length_pos_iff, Decimal.length_fraction]
    omega
  isDigit _ := Decimal.isDigit_of_mem_fraction

theorem digitsValue_padded (n places : Nat) : digitsValue (Decimal.padded n places) = n := by
  rw [Decimal.padded, digitsValue_zeros_append, digitsValue_digits]

theorem decimal_of_fraction (negative : Bool) (whole fraction : List Char) :
    decimal ⟨negative, whole, some fraction, none⟩ =
      ⟨digitsValue (whole ++ fraction), -fraction.length⟩ := by
  simp [decimal, power]

theorem denotes_whole (negative : Bool) (h : 0 ≤ d.exponent) :
    Denotes ⟨negative, Decimal.digits (d.significand * tenPow d.exponent.toNat), some ['0'], none⟩
      negative d.value where
  wellFormed :=
    ⟨isNumeral_digits _, fun _ hds => Option.some.inj hds ▸ isDigits_digits 0, nofun⟩
  negative_eq := rfl
  integer?_eq := rfl
  value_eq := by
    have hexponent : (d.exponent.toNat : Int) = d.exponent := Int.toNat_of_nonneg h
    have hpower : (10 : ℚ) ^ d.exponent = 10 ^ d.exponent.toNat := by
      rw [← zpow_natCast, hexponent]
    rw [decimal_of_fraction, digitsValue_append_zero, digitsValue_digits, tenPow_eq,
      Decimal.value, Decimal.value, hpower]
    push_cast
    rw [List.length_singleton, Nat.cast_one, zpow_neg_one]
    field_simp

theorem denotes_pointed (negative : Bool) (h : d.exponent < 0) :
    Denotes ⟨negative, Decimal.wholePart d.significand (-d.exponent).toNat,
      some (Decimal.fraction d.significand (-d.exponent).toNat), none⟩ negative d.value where
  wellFormed :=
    ⟨isNumeral_wholePart _ _, fun _ hds => Option.some.inj hds ▸ isDigits_fraction _ (by omega),
      nofun⟩
  negative_eq := rfl
  integer?_eq := rfl
  value_eq := by
    have hexponent : -((-d.exponent).toNat : Int) = d.exponent := by omega
    rw [decimal_of_fraction, Decimal.wholePart_append_fraction, digitsValue_padded,
      Decimal.length_fraction, hexponent]

theorem getD_ite_nil (ds : List Char) : (if ds = [] then none else some ds).getD [] = ds := by
  cases ds <;> rfl

theorem power_digits (negative : Bool) (whole : List Char) (fraction : Option (List Char))
    (n : Int) :
    power ⟨negative, whole, fraction, some (decide (n < 0), Decimal.digits n.natAbs)⟩ = n := by
  unfold power
  by_cases hn : n < 0
  · rw [decide_eq_true hn]
    dsimp only
    rw [digitsValue_digits]
    omega
  · rw [decide_eq_false hn]
    dsimp only
    rw [digitsValue_digits]
    omega

theorem denotes_scientific (negative : Bool) {first : Char} {tail : List Char}
    (h : Decimal.digits d.significand = first :: tail) :
    Denotes ⟨negative, [first], if tail = [] then none else some tail,
      some (decide (d.leading < 0), Decimal.digits d.leading.natAbs)⟩ negative d.value where
  wellFormed := by
    have hdigits : ∀ c ∈ first :: tail, c.isDigit = true :=
      fun c hc => Decimal.isDigit_of_mem_digits (h ▸ hc)
    refine ⟨⟨nofun, ?_, ?_⟩, ?_, ?_⟩
    · intro c hc
      obtain rfl := List.mem_singleton.mp hc
      exact hdigits c List.mem_cons_self
    · intro hhead
      rw [Option.some.inj hhead]
    · intro ds hds
      obtain ⟨hne, hds⟩ := Option.ite_none_left_eq_some.mp hds
      obtain rfl := Option.some.inj hds
      exact ⟨hne, fun c hc => hdigits c (List.mem_cons_of_mem _ hc)⟩
    · intro power hpower
      obtain rfl := Option.some.inj hpower
      exact isDigits_digits _
  negative_eq := rfl
  integer?_eq := by
    unfold integer?
    split
    · contradiction
    · rfl
  value_eq := by
    have hlength : d.leading = d.exponent + tail.length := by
      rw [Decimal.leading, h, List.length_cons]
      omega
    unfold decimal
    rw [power_digits]
    dsimp only
    rw [getD_ite_nil, List.singleton_append, ← h, digitsValue_digits, hlength, Int.add_sub_cancel]

end Value

section Layout

variable {layout : Decimal.Layout}

theorem toList_signed_true (n : Int) :
    (Decimal.signed true n).toList = (if n < 0 then '-' else '+') :: Decimal.digits n.natAbs := by
  unfold Decimal.signed Decimal.digits
  split <;> simp

theorem toList_scientific (d : Decimal) {first : Char} {tail : List Char}
    (h : Decimal.digits d.significand = first :: tail) :
    (d.scientific true).toList =
      first :: (fractionText (if tail = [] then none else some tail) ++
        exponentText (some (decide (d.leading < 0), Decimal.digits d.leading.natAbs))) := by
  unfold Decimal.scientific
  rw [h]
  cases tail <;> simp [fractionText, exponentText, toList_signed_true]

theorem toList_positional_of_nonneg {d : Decimal} (h : 0 ≤ d.exponent) :
    d.positional.toList = Decimal.digits (d.significand * tenPow d.exponent.toNat) := by
  have hplaces : (-d.exponent).toNat = 0 := by omega
  rw [Decimal.positional, Decimal.toList_pointed, hplaces, if_pos rfl, List.append_nil,
    Decimal.wholePart_zero]

theorem toList_positional_of_neg {d : Decimal} (h : d.exponent < 0) :
    d.positional.toList = Decimal.wholePart d.significand (-d.exponent).toNat ++
      '.' :: Decimal.fraction d.significand (-d.exponent).toNat := by
  have hplaces : (-d.exponent).toNat ≠ 0 := by omega
  have hpower : tenPow d.exponent.toNat = 1 := by
    rw [Int.toNat_of_nonpos h.le]
    rfl
  rw [Decimal.positional, hpower, Nat.mul_one, Decimal.toList_pointed, if_neg hplaces]

/-- A decimal that is marked as fractional, with a sign in its exponent, is the text of a
literal. -/
theorem exists_denotes (hpoint : layout.point = true) (hplus : layout.plus = true)
    (negative : Bool) (d : Decimal) :
    ∃ l, Denotes l negative d.value ∧ l.text = signedDigits negative (layout.text d).toList := by
  unfold Decimal.Layout.text
  simp only [hpoint, hplus, Bool.true_and, decide_eq_true_eq]
  split
  · split
    · rename_i hexponent
      refine ⟨_, denotes_whole negative hexponent, ?_⟩
      rw [text, String.toList_append, toList_positional_of_nonneg hexponent]
      rfl
    · rename_i hexponent
      rw [not_le] at hexponent
      refine ⟨_, denotes_pointed negative hexponent, ?_⟩
      rw [text, toList_positional_of_neg hexponent]
      simp [fractionText, exponentText]
  · cases hdigits : Decimal.digits d.significand with
    | nil => exact absurd hdigits (Decimal.digits_ne_nil _)
    | cons first tail =>
        refine ⟨_, denotes_scientific negative hdigits, ?_⟩
        rw [text, toList_scientific d hdigits]
        rfl

end Layout

end Literal

end Json

end Metrology
