import Metrology.Proofs.JsonWriting
import Metrology.Proofs.Rounding
import Metrology.Quantity.Arithmetic

namespace Metrology

namespace Precision

variable {p : Precision}

theorem nearestCode_units_mul (code : Nat) {den : Nat} (hden : 0 < den) :
    p.nearestCode (p.units code * den) den = code := by
  have h := p.isNearest_nearestCode (p.units code * den) hden
  rw [Nat.cast_mul, mul_div_cancel_right₀ _ (Nat.cast_ne_zero.mpr hden.ne')] at h
  exact h.eq (p.isNearest_units code)

/-- Every magnitude is a significand of bounded length, shifted. -/
theorem exists_units_eq_mul (p : Precision) (code : Nat) :
    ∃ m s, p.units code = m * 2 ^ s ∧ m < 2 * 2 ^ p.fractionBits := by
  rcases Nat.lt_or_ge code (2 ^ p.fractionBits) with hcode | hcode
  · exact ⟨code, 0, by simp [units_of_lt hcode], by omega⟩
  · obtain ⟨s, m, rfl, hm, hm'⟩ := exists_eq_mul_add hcode
    exact ⟨m, s, units_mul_add s hm hm', hm'⟩

theorem exists_code_eq {m s : Nat} (hm : m < 2 * 2 ^ p.fractionBits)
    (hlt : m * 2 ^ s < p.units p.count) : ∃ code : Fin p.count, p.units code = m * 2 ^ s := by
  obtain ⟨code, hcode⟩ := p.exists_units_eq hm s
  rw [← hcode, p.strictMono_units.lt_iff_lt] at hlt
  exact ⟨⟨code, hlt⟩, hcode⟩

/-- A precision with longer significands has more places and a larger range. -/
theorem exists_places_eq {q : Precision} (h : p.fractionBits ≤ q.fractionBits) :
    ∃ shift, q.places = p.places + shift ∧ p.units p.count * 2 ^ shift ≤ q.units q.count := by
  cases p with
  | single =>
      cases q with
      | single => exact ⟨0, rfl, by decide +kernel⟩
      | double => exact ⟨925, rfl, by decide +kernel⟩
  | double =>
      cases q with
      | single => exact absurd h (by decide)
      | double => exact ⟨0, rfl, by decide +kernel⟩

theorem exists_magnitude_eq {q : Precision} (h : p.fractionBits ≤ q.fractionBits)
    (code : Fin p.count) : ∃ code' : Fin q.count, q.magnitude code' = p.magnitude code := by
  obtain ⟨shift, hplaces, hrange⟩ := exists_places_eq h
  obtain ⟨m, s, hunits, hm⟩ := p.exists_units_eq_mul code
  have hlt := Nat.mul_lt_mul_of_pos_right (p.strictMono_units code.isLt) (Nat.two_pow_pos shift)
  have hlength : m < 2 * 2 ^ q.fractionBits :=
    hm.trans_le (Nat.mul_le_mul_left 2 (Nat.pow_le_pow_right two_pos h))
  obtain ⟨code', hcode'⟩ : ∃ code' : Fin q.count, q.units code' = m * 2 ^ (s + shift) := by
    apply exists_code_eq hlength
    rw [Nat.pow_add, ← Nat.mul_assoc, ← hunits]
    exact hlt.trans_le hrange
  refine ⟨code', ?_⟩
  rw [magnitude, magnitude, hcode', hunits, hplaces,
    div_eq_div_iff (by positivity) (by positivity)]
  push_cast
  ring

theorem units_eq_of_magnitude_eq {code n : Nat} (h : p.magnitude code = n) :
    p.units code = n * 2 ^ p.places := by
  rw [magnitude, div_eq_iff (by positivity)] at h
  exact_mod_cast h

/-- The least integer without an equal number: it lies between two neighbours. -/
theorem magnitude_ne_two_pow_add_one (p : Precision) (code : Nat) :
    p.magnitude code ≠ (2 ^ (p.fractionBits + 1) + 1 : Nat) := by
  intro h
  have hunits := units_eq_of_magnitude_eq h
  have hpos := Nat.two_pow_pos p.places
  have hfull := Nat.one_lt_two_pow (n := p.fractionBits) (by cases p <;> decide)
  have hlow := p.units_mul_add (p.places + 1) (le_refl (2 ^ p.fractionBits)) (by omega)
  have hhigh :=
    p.units_mul_add (p.places + 1) (Nat.le_add_right (2 ^ p.fractionBits) 1) (by omega)
  rw [← Nat.add_assoc] at hhigh
  have hlt := p.strictMono_units.lt_iff_lt.mp (show p.units _ < p.units code by
    rw [hlow, hunits, Nat.pow_succ, Nat.pow_succ]
    nlinarith)
  have hgt := p.strictMono_units.lt_iff_lt.mp (show p.units code < p.units _ by
    rw [hhigh, hunits, Nat.pow_succ, Nat.pow_succ]
    nlinarith)
  omega

end Precision

namespace Binary

variable {p : Precision}

theorem round_units_mul (negative : Bool) (code : Fin p.count) {num den : Nat} (hden : 0 < den)
    (hnum : num = p.units code * den) :
    (round negative num den : Binary p) = .finite negative code := by
  have hcode : p.nearestCode num den = code := by
    rw [hnum, Precision.nearestCode_units_mul _ hden]
  have hlt : p.nearestCode num den < p.count := hcode ▸ code.isLt
  unfold round
  rw [dif_pos hlt]
  simp only [hcode]

end Binary

namespace Number

/-- A rational number or an infinity. -/
inductive ExtendedRat where
  | finite (q : ℚ)
  | infinite (negative : Bool)
  deriving DecidableEq

namespace Kind

/-- The exact value, where there is one. -/
def value? : {kind : Kind} → kind.Carrier → Option ExtendedRat
  | .integer _, x => some (.finite x.val)
  | .binary _, .nan => none
  | .binary _, .infinite negative => some (.infinite negative)
  | .binary p, .finite negative code =>
      some (.finite (Binary.withSign negative (p.magnitude code)))

def isNegative : {kind : Kind} → kind.Carrier → Bool
  | .integer _, x => x.val < 0
  | .binary _, x => x.isNegative

/-- The same exact value with the same sign, which tells the zeros apart. -/
structure SameValue {source target : Kind} (x : source.Carrier) (y : target.Carrier) : Prop where
  value : value? y = value? x
  sign : isNegative y = isNegative x

variable {source target : Kind}

namespace SameValue

variable {middle : Kind} {x : source.Carrier} {y : target.Carrier} {z : middle.Carrier}

theorem refl (x : source.Carrier) : SameValue x x :=
  ⟨rfl, rfl⟩

theorem symm (h : SameValue x y) : SameValue y x :=
  ⟨h.value.symm, h.sign.symm⟩

theorem trans (h : SameValue x y) (h' : SameValue y z) : SameValue x z :=
  ⟨h'.value.trans h.value, h'.sign.trans h.sign⟩

end SameValue

section Exact

variable {k l : IntegerKind} {p q : Precision}

theorem magnitude_eq_natAbs {negative : Bool} {code : Nat} {n : Int}
    (h : Binary.withSign negative (p.magnitude code) = n) : p.magnitude code = n.natAbs := by
  have habs := congrArg abs h
  rwa [Binary.abs_withSign, abs_of_nonneg (p.magnitude_nonneg code), ← Int.cast_abs,
    ← Nat.cast_natAbs] at habs

theorem cast_integer_binary {x : (Kind.integer k).Carrier} {y : (Kind.binary p).Carrier}
    (h : SameValue x y) : cast x = y := by
  obtain ⟨hvalue, hsign⟩ := h
  cases y with
  | nan => cases hvalue
  | infinite negative => cases hvalue
  | finite negative code =>
      have hmagnitude : Binary.withSign negative (p.magnitude code) = x.val := by
        simpa [value?] using hvalue
      have hunits := Precision.units_eq_of_magnitude_eq (magnitude_eq_natAbs hmagnitude)
      obtain rfl : negative = decide (x.val < 0) := hsign
      refine Binary.round_units_mul _ code Nat.one_pos ?_
      rw [hunits, Nat.mul_one]
      rfl

theorem cast_binary_integer {x : (Kind.binary p).Carrier} {y : (Kind.integer k).Carrier}
    (h : SameValue x y) : cast x = y := by
  obtain ⟨hvalue, -⟩ := h
  cases x with
  | nan => cases hvalue
  | infinite negative => cases hvalue
  | finite negative code =>
      have hmagnitude : Binary.withSign negative (p.magnitude code) = y.val := by
        simpa [value?, eq_comm] using hvalue
      have habs := magnitude_eq_natAbs hmagnitude
      have hunits := Precision.units_eq_of_magnitude_eq habs
      have htruncate : (Binary.finite negative code).truncate? = some y.val := by
        rw [habs] at hmagnitude
        rw [Binary.truncate?, hunits, twoPow_eq, Nat.mul_div_cancel _ (Nat.two_pow_pos _)]
        cases negative with
        | true =>
            have hval : -(y.val.natAbs : Int) = y.val :=
              Int.cast_injective (α := ℚ) (by simpa using hmagnitude)
            exact congrArg some hval
        | false =>
            have hval : (y.val.natAbs : Int) = y.val :=
              Int.cast_injective (α := ℚ) (by simpa using hmagnitude)
            exact congrArg some hval
      change BoundedInt.clamp k ((Binary.finite negative code).truncate?.getD 0) = y
      rw [htruncate, Option.getD_some, BoundedInt.clamp_val]

theorem cast_binary_binary {x : (Kind.binary p).Carrier} {y : (Kind.binary q).Carrier}
    (h : SameValue x y) : cast x = y := by
  obtain ⟨hvalue, hsign⟩ := h
  cases x with
  | nan =>
      cases y with
      | nan => rfl
      | infinite negative => cases hvalue
      | finite negative code => cases hvalue
  | infinite negative =>
      cases y with
      | nan => cases hvalue
      | infinite negative' =>
          cases hvalue
          rfl
      | finite negative' code' => cases hvalue
  | finite negative code =>
      cases y with
      | nan => cases hvalue
      | infinite negative' => cases hvalue
      | finite negative' code' =>
          obtain rfl : negative' = negative := hsign
          have hmagnitude : q.magnitude code' = p.magnitude code := by
            have hsigned : Binary.withSign negative' (q.magnitude code') =
                Binary.withSign negative' (p.magnitude code) := by
              simpa [value?] using hvalue
            cases negative' <;> simpa using hsigned
          have hunits : p.units code * 2 ^ q.places = q.units code' * 2 ^ p.places := by
            rw [Precision.magnitude, Precision.magnitude,
              div_eq_div_iff (by positivity) (by positivity)] at hmagnitude
            exact_mod_cast hmagnitude.symm
          exact Binary.round_units_mul negative' code' (Nat.two_pow_pos _) hunits

/-- A cast gives the number with the same value, if there is one. -/
theorem cast_eq_of_sameValue {x : source.Carrier} {y : target.Carrier} (h : SameValue x y) :
    cast x = y := by
  cases source with
  | integer k =>
      cases target with
      | integer l =>
          have hval : (x : BoundedInt k).val = (y : BoundedInt l).val := by
            simpa [value?, eq_comm] using h.value
          change BoundedInt.wrap l (x : BoundedInt k).val = y
          rw [hval, BoundedInt.wrap_val]
      | binary p => exact cast_integer_binary h
  | binary p =>
      cases target with
      | integer l => exact cast_binary_integer h
      | binary q => exact cast_binary_binary h

end Exact

section Embedding

variable {k l : IntegerKind} {p q : Precision}

/-- Every number of the first type has an equal one in the second. -/
def embeds : Kind → Kind → Bool
  | .integer k, .integer l => l.min ≤ k.min && k.max ≤ l.max
  | .integer k, .binary p =>
      -(2 ^ (p.fractionBits + 1) : Int) < k.min && k.max < (2 ^ (p.fractionBits + 1) : Int)
  | .binary _, .integer _ => false
  | .binary p, .binary q => p.fractionBits ≤ q.fractionBits

theorem mem_all (kind : Kind) : kind ∈ all := by
  cases kind with
  | integer k => exact List.mem_append_right _ (List.mem_map_of_mem k.mem_all)
  | binary p => cases p <;> decide

theorem embeds_of_mem_wider (h : target ∈ source.wider) : embeds source target = true := by
  have hall : ∀ source ∈ all, ∀ target ∈ source.wider, embeds source target = true := by
    decide +kernel
  exact hall source source.mem_all target h

/-- The list of wider types has every type that it could have. -/
theorem mem_wider_of_embeds (hsource : source.wider ≠ [])
    (htarget : ∃ other : Kind, target ∈ other.wider) (hne : target ≠ source)
    (h : embeds source target = true) : target ∈ source.wider := by
  have hall : ∀ source ∈ all, source.wider ≠ [] → ∀ other ∈ all, ∀ target ∈ other.wider,
      target ≠ source → embeds source target = true → target ∈ source.wider := by
    decide +kernel
  obtain ⟨other, hother⟩ := htarget
  exact hall source source.mem_all hsource other other.mem_all target hother hne h

theorem exists_integer_of_embeds (h : embeds (.integer k) (.integer l) = true)
    (x : (Kind.integer k).Carrier) : ∃ y : (Kind.integer l).Carrier, SameValue x y := by
  simp only [embeds, Bool.and_eq_true, decide_eq_true_eq] at h
  have hmin := h.1.trans x.min_le
  have hmax := x.le_max.trans h.2
  exact ⟨⟨x.val, hmin, hmax⟩, rfl, rfl⟩

theorem exists_binary_of_embeds (h : embeds (.integer k) (.binary p) = true)
    (x : (Kind.integer k).Carrier) : ∃ y : (Kind.binary p).Carrier, SameValue x y := by
  simp only [embeds, Bool.and_eq_true, decide_eq_true_eq] at h
  have hmin := h.1.trans_le x.min_le
  have hmax := x.le_max.trans_lt h.2
  have hlength : x.val.natAbs < 2 * 2 ^ p.fractionBits := by
    rw [← Nat.pow_succ']
    zify
    exact abs_lt.mpr ⟨hmin, hmax⟩
  have hrange : x.val.natAbs * 2 ^ p.places < p.units p.count := by
    have hgreat : 2 * 2 ^ p.fractionBits * 2 ^ p.places ≤ p.units p.count := by
      cases p <;> decide +kernel
    exact (Nat.mul_lt_mul_of_pos_right hlength (Nat.two_pow_pos _)).trans_le hgreat
  obtain ⟨code, hcode⟩ := Precision.exists_code_eq hlength hrange
  have hmagnitude : p.magnitude code = x.val.natAbs := by
    rw [Precision.magnitude, hcode, Nat.cast_mul, Nat.cast_pow, Nat.cast_ofNat,
      mul_div_cancel_right₀ _ (by positivity)]
  refine ⟨.finite (decide (x.val < 0)) code, ?_, rfl⟩
  simp only [value?, hmagnitude, Binary.withSign_natAbs]

theorem exists_finer_of_embeds (h : embeds (.binary p) (.binary q) = true)
    (x : (Kind.binary p).Carrier) : ∃ y : (Kind.binary q).Carrier, SameValue x y := by
  simp only [embeds, decide_eq_true_eq] at h
  cases x with
  | nan => exact ⟨.nan, rfl, rfl⟩
  | infinite negative => exact ⟨.infinite negative, rfl, rfl⟩
  | finite negative code =>
      obtain ⟨code', hcode'⟩ := Precision.exists_magnitude_eq h code
      refine ⟨.finite negative code', ?_, rfl⟩
      simp only [value?, hcode']

theorem exists_sameValue (h : embeds source target = true) (x : source.Carrier) :
    ∃ y : target.Carrier, SameValue x y := by
  cases source with
  | integer k =>
      cases target with
      | integer l => exact exists_integer_of_embeds h x
      | binary p => exact exists_binary_of_embeds h x
  | binary p =>
      cases target with
      | integer l => cases h
      | binary q => exact exists_finer_of_embeds h x

/-- A value of the first type that the second one does not have. -/
def Missing (target : Kind) (x : source.Carrier) : Prop :=
  value? x ≠ none ∧ ∀ y : target.Carrier, value? y ≠ value? x

theorem exists_missing_integer (h : embeds (.integer k) (.integer l) = false) :
    ∃ x : (Kind.integer k).Carrier, Missing (.integer l) x := by
  have hk := k.min_le_zero.trans k.zero_le_max
  simp only [embeds, Bool.and_eq_false_iff, decide_eq_false_iff_not, not_le] at h
  rcases h with hmin | hmax
  · refine ⟨⟨k.min, le_rfl, hk⟩, by simp [value?], fun y hy => ?_⟩
    have hval : y.val = k.min := by simpa [value?] using hy
    exact hmin.not_ge (hval ▸ y.min_le)
  · refine ⟨⟨k.max, hk, le_rfl⟩, by simp [value?], fun y hy => ?_⟩
    have hval : y.val = k.max := by simpa [value?] using hy
    exact hmax.not_ge (hval ▸ y.le_max)

theorem exists_missing_binary (h : embeds (.integer k) (.binary p) = false) :
    ∃ x : (Kind.integer k).Carrier, Missing (.binary p) x := by
  have hall : ∀ k ∈ IntegerKind.all, ∀ p ∈ [Precision.single, .double],
      embeds (.integer k) (.binary p) = false → (2 ^ (p.fractionBits + 1) + 1 : Nat) ≤ k.max := by
    decide +kernel
  have hmax := hall k k.mem_all p (by cases p <;> decide) h
  have hmin : k.min ≤ (2 ^ (p.fractionBits + 1) + 1 : Nat) :=
    k.min_le_zero.trans (Int.natCast_nonneg _)
  refine ⟨⟨_, hmin, hmax⟩, by simp [value?], fun y hy => ?_⟩
  cases y with
  | nan => simp [value?] at hy
  | infinite negative => simp [value?] at hy
  | finite negative code =>
      simp only [value?, Option.some.injEq, ExtendedRat.finite.injEq] at hy
      have hmagnitude := magnitude_eq_natAbs hy
      rw [Int.natAbs_natCast] at hmagnitude
      exact p.magnitude_ne_two_pow_add_one code hmagnitude

/-- The least number above zero. -/
def least (p : Precision) : (Kind.binary p).Carrier :=
  .finite false ⟨1, by cases p <;> decide⟩

theorem value?_least (p : Precision) : value? (least p) = some (.finite (1 / 2 ^ p.places)) := by
  have hunits : p.units 1 = 1 := Precision.units_of_lt (by cases p <;> decide)
  simp [value?, least, Precision.magnitude, hunits]

theorem exists_missing_of_binary (p : Precision) (l : IntegerKind) :
    ∃ x : (Kind.binary p).Carrier, Missing (.integer l) x := by
  refine ⟨least p, by simp [value?_least], fun y hy => ?_⟩
  rw [value?_least] at hy
  simp only [value?, Option.some.injEq, ExtendedRat.finite.injEq] at hy
  rw [eq_div_iff (by positivity)] at hy
  have hone : y.val * 2 ^ p.places = 1 := by exact_mod_cast hy
  have heven : (2 : Int) ∣ y.val * 2 ^ p.places :=
    Dvd.dvd.mul_left (dvd_pow_self 2 (by cases p <;> decide)) _
  omega

theorem exists_missing_coarser (h : embeds (.binary p) (.binary q) = false) :
    ∃ x : (Kind.binary p).Carrier, Missing (.binary q) x := by
  have hplaces : q.places < p.places := by
    revert h
    cases p <;> cases q <;> decide
  refine ⟨least p, by simp [value?_least], fun y hy => ?_⟩
  rw [value?_least] at hy
  cases y with
  | nan => simp [value?] at hy
  | infinite negative => simp [value?] at hy
  | finite negative code =>
      simp only [value?, Option.some.injEq, ExtendedRat.finite.injEq] at hy
      have habs := congrArg abs hy
      rw [Binary.abs_withSign, abs_of_nonneg (q.magnitude_nonneg code),
        abs_of_pos (by positivity), Precision.magnitude,
        div_eq_div_iff (by positivity) (by positivity), one_mul] at habs
      have hunits : q.units code * 2 ^ p.places = 2 ^ q.places := by exact_mod_cast habs
      have hdvd : 2 ^ p.places ∣ 2 ^ q.places := ⟨q.units code, by rw [← hunits, Nat.mul_comm]⟩
      exact (Nat.pow_lt_pow_right one_lt_two hplaces).not_ge
        (Nat.le_of_dvd (Nat.two_pow_pos _) hdvd)

theorem exists_missing (h : embeds source target = false) :
    ∃ x : source.Carrier, Missing target x := by
  cases source with
  | integer k =>
      cases target with
      | integer l => exact exists_missing_integer h
      | binary p => exact exists_missing_binary h
  | binary p =>
      cases target with
      | integer l => exact exists_missing_of_binary p l
      | binary q => exact exists_missing_coarser h

end Embedding

theorem sameValue_cast (h : target ∈ source.wider) (x : source.Carrier) :
    SameValue x (cast x : target.Carrier) := by
  obtain ⟨y, hy⟩ := exists_sameValue (embeds_of_mem_wider h) x
  rwa [cast_eq_of_sameValue hy]

end Kind

end Number

namespace Quantity

open Number Number.Kind

variable {source target middle : Kind}

theorem convert_of_mem_wider (h : target ∈ source.wider) (q : Quantity source.Carrier) :
    q.convert target = .ok (q.cast target) := by
  unfold convert widen
  rw [if_pos h]
  rfl

theorem cast_cast_of_mem_wider (h : target ∈ source.wider) (q : Quantity source.Carrier) :
    (q.cast target).cast source = q := by
  obtain ⟨d, x, hd⟩ := q
  have hback : Kind.cast (Kind.cast x : target.Carrier) = x :=
    cast_eq_of_sameValue (sameValue_cast h x).symm
  simp only [cast, hback]

theorem cast_cast_of_path (h : middle ∈ source.wider) (h' : target ∈ middle.wider)
    (q : Quantity source.Carrier) : (q.cast middle).cast target = q.cast target := by
  have hpath := (sameValue_cast h q.magnitude).trans
    (sameValue_cast h' (Kind.cast q.magnitude : middle.Carrier))
  simp only [cast, cast_eq_of_sameValue hpath]

/-- A listed conversion keeps the exact value and the sign, does what a cast does, and is undone
by the cast back; every way along listed conversions has the same result. Between the types of the
list nothing else is lossless. -/
theorem conversions_lossless :
    (∀ source target : Kind, target ∈ source.wider → ∀ q : Quantity source.Carrier,
      ∃ r : Quantity target.Carrier, q.convert target = .ok r ∧ q.cast target = r ∧
        r.dimension = q.dimension ∧ SameValue q.magnitude r.magnitude ∧ r.cast source = q) ∧
    (∀ source middle target : Kind, middle ∈ source.wider → target ∈ middle.wider →
      target ∈ source.wider → ∀ q : Quantity source.Carrier,
        (q.convert middle >>= fun r => r.convert target) = q.convert target) ∧
    ∀ source target : Kind, source.wider ≠ [] → (∃ other : Kind, target ∈ other.wider) →
      target ≠ source → target ∉ source.wider →
        ∃ x : source.Carrier, value? x ≠ none ∧ ∀ y : target.Carrier, value? y ≠ value? x := by
  refine ⟨?_, ?_, ?_⟩
  · intro source target h q
    exact ⟨q.cast target, convert_of_mem_wider h q, rfl, rfl, sameValue_cast h q.magnitude,
      cast_cast_of_mem_wider h q⟩
  · intro source middle target h h' hdirect q
    rw [convert_of_mem_wider h, convert_of_mem_wider hdirect]
    exact (convert_of_mem_wider h' (q.cast middle)).trans (congrArg _ (cast_cast_of_path h h' q))
  · intro source target hsource htarget hne hunlisted
    apply exists_missing
    rw [← Bool.not_eq_true]
    exact fun h => hunlisted (mem_wider_of_embeds hsource htarget hne h)

/-- The largest integer of 16 bits by way of single precision, and an integer of 64 bits that
double precision does not have. -/
theorem conversions_lossless_way :
    (∃ r : Quantity (Kind.binary .single).Carrier,
      convert (.binary .single)
        (⟨Dimension.base .length, BoundedInt.wrap ⟨false, .w16⟩ 65535, rfl⟩ :
        Quantity (Kind.unsigned .w16).Carrier) = .ok r ∧
      value? r.magnitude = some (.finite 65535) ∧
      r.convert (.binary .double) =
        convert (.binary .double)
          (⟨Dimension.base .length, BoundedInt.wrap ⟨false, .w16⟩ 65535, rfl⟩ :
          Quantity (Kind.unsigned .w16).Carrier)) ∧
    ∃ x : (Kind.signed .w64).Carrier, ∀ y : (Kind.binary .double).Carrier,
      value? y ≠ value? x := by
  obtain ⟨hlossless, hpath, hcomplete⟩ := conversions_lossless
  obtain ⟨r, hr, -, -, hvalue, -⟩ := hlossless (.unsigned .w16) (.binary .single) (by decide)
    ⟨Dimension.base .length, BoundedInt.wrap ⟨false, .w16⟩ 65535, rfl⟩
  have hway := hpath (.unsigned .w16) (.binary .single) (.binary .double) (by decide) (by decide)
    (by decide) ⟨Dimension.base .length, BoundedInt.wrap ⟨false, .w16⟩ 65535, rfl⟩
  rw [hr] at hway
  obtain ⟨x, -, hx⟩ := hcomplete (.signed .w64) (.binary .double) (by decide)
    ⟨.binary .single, by decide⟩ (by decide) (by decide)
  exact ⟨⟨r, hr, hvalue.value.trans rfl, hway⟩, x, hx⟩

end Quantity

end Metrology
