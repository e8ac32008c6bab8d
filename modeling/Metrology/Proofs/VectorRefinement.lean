import Mathlib.Data.Int.ModEq
import Metrology.Dimension.Vector

/-!
Exponent vectors against dimensions. An operation on the vectors of two dimensions gives the
vector of the exact result, or nothing: as long as the exponents of the operands fit, it fails
only where those of the exact result do not. The exponents of a vector are residues, so a result
that is there is right even for operands that do not fit.
-/

namespace Metrology

namespace BoundedInt

variable {k : IntegerKind}

theorem residue_congr {m n : Int} (h : m ≡ n [ZMOD twoPow k.bits]) :
    residue k m = residue k n := by
  unfold residue
  split
  · rw [← Int.emod_bmod m, h, Int.emod_bmod]
  · exact h

theorem residue_modEq (k : IntegerKind) (n : Int) : residue k n ≡ n [ZMOD twoPow k.bits] := by
  unfold residue
  split
  · exact Int.bmod_emod
  · exact Int.mod_modEq n _

theorem wrap_eq_wrap_iff {m n : Int} : wrap k m = wrap k n ↔ m ≡ n [ZMOD twoPow k.bits] := by
  rw [BoundedInt.ext_iff, val_wrap, val_wrap]
  constructor
  · intro h
    calc
      m ≡ residue k m [ZMOD twoPow k.bits] := (residue_modEq k m).symm
      _ ≡ n [ZMOD twoPow k.bits] := h ▸ residue_modEq k n
  · exact residue_congr

/-- A number in range is the residue of everything congruent to it. -/
theorem eq_wrap_of_modEq {a : BoundedInt k} {n : Int} (h : a.val ≡ n [ZMOD twoPow k.bits]) :
    a = wrap k n := by
  rw [← wrap_val a]
  exact wrap_eq_wrap_iff.mpr h

theorem val_wrap_of_mem {n : Int} (hmin : k.min ≤ n) (hmax : n ≤ k.max) : (wrap k n).val = n :=
  congrArg val (wrap_val ⟨n, hmin, hmax⟩)

theorem wrap_eq_zero_iff {n : Int} : wrap k n = 0 ↔ (twoPow k.bits : Int) ∣ n := by
  rw [← wrap_val 0, wrap_eq_wrap_iff, val_zero]
  exact Int.modEq_zero_iff_dvd

end BoundedInt

namespace Dimension

def Fits (a : Dimension) : Prop :=
  ∀ d, IntegerKind.int8.min ≤ a.get d ∧ a.get d ≤ IntegerKind.int8.max

theorem Fits.val_get_vector {a : Dimension} (ha : a.Fits) (d : BaseDimension) :
    (a.vector.get d).val = a.get d := by
  rw [get_vector]
  exact BoundedInt.val_wrap_of_mem (ha d).1 (ha d).2

theorem fits_and_eq_vector_iff {a : Dimension} {v : ExponentVector} :
    a.Fits ∧ v = a.vector ↔ ∀ d, (v.get d).val = a.get d := by
  constructor
  · rintro ⟨ha, rfl⟩ d
    exact ha.val_get_vector d
  · intro h
    refine ⟨fun d => ?_, Exponents.ext_get fun d => ?_⟩
    · rw [← h d]
      exact ⟨(v.get d).min_le, (v.get d).le_max⟩
    · rw [get_vector, ← h d, BoundedInt.wrap_val]

theorem root?_eq_some_iff {a b : Dimension} {n : Int} :
    a.root? n = some b ↔ n ≠ 0 ∧ ∀ d, a.get d = b.get d * n := by
  unfold root?
  split
  · rename_i h
    have hdvd : ∀ d, n ∣ a.get d := by
      intro d
      exact Int.dvd_of_emod_eq_zero (by simpa using List.all_eq_true.mp h.2 d d.mem_all)
    constructor
    · intro hb
      obtain rfl := Option.some.inj hb
      refine ⟨h.1, fun d => ?_⟩
      rw [Exponents.get_ofFn, Int.ediv_mul_cancel (hdvd d)]
    · rintro ⟨hn, hb⟩
      refine congrArg some (Exponents.ext_get fun d => ?_)
      rw [Exponents.get_ofFn, hb d, Int.mul_ediv_cancel _ hn]
  · rename_i h
    constructor
    · intro hb
      simp at hb
    · rintro ⟨hn, hb⟩
      refine absurd ⟨hn, ?_⟩ h
      simp [hb]

theorem isSome_root?_iff {a : Dimension} {n : Int} :
    (a.root? n).isSome = true ↔ n ≠ 0 ∧ ∀ d, n ∣ a.get d := by
  constructor
  · intro h
    obtain ⟨b, hb⟩ := Option.isSome_iff_exists.mp h
    rw [root?_eq_some_iff] at hb
    exact ⟨hb.1, fun d => Dvd.intro_left _ (hb.2 d).symm⟩
  · rintro ⟨hn, hdvd⟩
    have hroot : a.root? n = some (Exponents.ofFn fun d => a.get d / n) := by
      rw [root?_eq_some_iff]
      refine ⟨hn, fun d => ?_⟩
      rw [Exponents.get_ofFn, Int.ediv_mul_cancel (hdvd d)]
    simp [hroot]

end Dimension

namespace ExponentVector

/-- An operation on vectors gives the vector of the exact dimension, exactly where there is one
and it fits. -/
structure Refines (result : Option ExponentVector) (exact : Option Dimension) : Prop where
  eq_some_iff : ∀ v, result = some v ↔ ∃ a, exact = some a ∧ a.Fits ∧ v = a.vector
  eq_none_iff : result = none ↔ ∀ a, exact = some a → ¬ a.Fits

theorem Refines.of_exponents {result : Option ExponentVector} {exact : Option Dimension}
    (h : ∀ v, result = some v ↔ ∃ a, exact = some a ∧ ∀ d, (v.get d).val = a.get d) :
    Refines result exact := by
  have hsome : ∀ v, result = some v ↔ ∃ a, exact = some a ∧ a.Fits ∧ v = a.vector := by
    intro v
    rw [h v]
    exact exists_congr fun a => and_congr_right fun _ => Dimension.fits_and_eq_vector_iff.symm
  refine ⟨hsome, ?_⟩
  constructor
  · rintro hnone a ha hfits
    have hresult := (hsome a.vector).mpr ⟨a, ha, hfits, rfl⟩
    rw [hnone] at hresult
    simp at hresult
  · intro hexact
    cases hresult : result with
    | none => rfl
    | some v =>
        obtain ⟨a, ha, hfits, -⟩ := (hsome v).mp hresult
        exact absurd hfits (hexact a ha)

theorem Refines.of_total {result : Option ExponentVector} {a : Dimension}
    (h : ∀ v, result = some v ↔ ∀ d, (v.get d).val = a.get d) : Refines result (some a) := by
  apply Refines.of_exponents
  intro v
  rw [h v]
  constructor
  · intro hv
    exact ⟨a, rfl, hv⟩
  · rintro ⟨b, hb, hv⟩
    rw [Option.some.inj hb]
    exact hv

section Fitting

variable {a b : Dimension} (ha : a.Fits) (hb : b.Fits) (n : Exponent)
include ha

theorem refines_reciprocal : Refines a.vector.reciprocal (some a.reciprocal) := by
  apply Refines.of_total
  intro v
  rw [reciprocal_eq_some_iff]
  refine forall_congr' fun d => ?_
  rw [ha.val_get_vector, Dimension.get_reciprocal]

theorem refines_power : Refines (a.vector.power n) (some (a.power n.val)) := by
  apply Refines.of_total
  intro v
  rw [power_eq_some_iff]
  refine forall_congr' fun d => ?_
  rw [ha.val_get_vector, Dimension.get_power]

theorem refines_root : Refines (a.vector.root n) (a.root? n.val) := by
  apply Refines.of_exponents
  intro v
  rw [root_eq_some_iff]
  constructor
  · rintro ⟨hn, hv⟩
    refine ⟨v.toDimension, Dimension.root?_eq_some_iff.mpr ⟨hn, fun d => ?_⟩, fun d => ?_⟩
    · rw [← ha.val_get_vector, hv d, toDimension, Exponents.get_map]
    · rw [toDimension, Exponents.get_map]
  · rintro ⟨b, hb, hv⟩
    rw [Dimension.root?_eq_some_iff] at hb
    refine ⟨hb.1, fun d => ?_⟩
    rw [ha.val_get_vector, hb.2 d, hv d]

include hb

theorem refines_product : Refines (a.vector.product b.vector) (some (a.product b)) := by
  apply Refines.of_total
  intro v
  rw [product_eq_some_iff]
  refine forall_congr' fun d => ?_
  rw [ha.val_get_vector, hb.val_get_vector, Dimension.get_product]

theorem refines_quotient : Refines (a.vector.quotient b.vector) (some (a.quotient b)) := by
  apply Refines.of_total
  intro v
  rw [quotient_eq_some_iff]
  refine forall_congr' fun d => ?_
  rw [ha.val_get_vector, hb.val_get_vector, Dimension.get_quotient]

end Fitting

section Wrapped

variable {a b : Dimension} {n : Exponent} {v : ExponentVector}

theorem val_get_vector_modEq (a : Dimension) (d : BaseDimension) :
    (a.vector.get d).val ≡ a.get d [ZMOD twoPow IntegerKind.int8.bits] := by
  rw [Dimension.get_vector]
  exact BoundedInt.residue_modEq .int8 (a.get d)

theorem eq_vector_of_modEq
    (h : ∀ d, (v.get d).val ≡ a.get d [ZMOD twoPow IntegerKind.int8.bits]) : v = a.vector := by
  apply Exponents.ext_get
  intro d
  rw [Dimension.get_vector]
  exact BoundedInt.eq_wrap_of_modEq (h d)

theorem eq_vector_of_product (h : a.vector.product b.vector = some v) :
    v = (a.product b).vector := by
  apply eq_vector_of_modEq
  intro d
  rw [product_eq_some_iff.mp h d, Dimension.get_product]
  exact (val_get_vector_modEq a d).add (val_get_vector_modEq b d)

theorem eq_vector_of_quotient (h : a.vector.quotient b.vector = some v) :
    v = (a.quotient b).vector := by
  apply eq_vector_of_modEq
  intro d
  rw [quotient_eq_some_iff.mp h d, Dimension.get_quotient]
  exact (val_get_vector_modEq a d).sub (val_get_vector_modEq b d)

theorem eq_vector_of_reciprocal (h : a.vector.reciprocal = some v) : v = a.reciprocal.vector := by
  apply eq_vector_of_modEq
  intro d
  rw [reciprocal_eq_some_iff.mp h d, Dimension.get_reciprocal]
  exact (val_get_vector_modEq a d).neg

theorem eq_vector_of_power (h : a.vector.power n = some v) : v = (a.power n.val).vector := by
  apply eq_vector_of_modEq
  intro d
  rw [power_eq_some_iff.mp h d, Dimension.get_power]
  exact (val_get_vector_modEq a d).mul_right n.val

end Wrapped

/-- The algebra of vectors refines that of dimensions: exactly, for operands that fit, and without
ever giving a wrong vector, for any operands. Only a root of residues can go wrong. -/
theorem algebra_refines (a b : Dimension) (n : Exponent) :
    (a.Fits → b.Fits →
      Refines (a.vector.product b.vector) (some (a.product b)) ∧
      Refines (a.vector.quotient b.vector) (some (a.quotient b)) ∧
      Refines a.vector.reciprocal (some a.reciprocal) ∧
      Refines (a.vector.power n) (some (a.power n.val)) ∧
      Refines (a.vector.root n) (a.root? n.val) ∧
      ((a.root? n.val).isSome = true ↔ n.val ≠ 0 ∧ ∀ d, n.val ∣ a.get d)) ∧
    (∀ v, a.vector.product b.vector = some v → v = (a.product b).vector) ∧
    (∀ v, a.vector.quotient b.vector = some v → v = (a.quotient b).vector) ∧
    (∀ v, a.vector.reciprocal = some v → v = a.reciprocal.vector) ∧
    (∀ v, a.vector.power n = some v → v = (a.power n.val).vector) := by
  refine ⟨fun ha hb => ?_, fun _ => eq_vector_of_product, fun _ => eq_vector_of_quotient,
    fun _ => eq_vector_of_reciprocal, fun _ => eq_vector_of_power⟩
  exact ⟨refines_product ha hb, refines_quotient ha hb, refines_reciprocal ha, refines_power ha n,
    refines_root ha n, Dimension.isSome_root?_iff⟩

/-- The least exponent has no opposite, and residues of large exponents still add up. -/
theorem algebra_refines_extremes :
    Dimension.Fits ⟨-128, 0, 127, 0, 0, 0, 6⟩ ∧
    (Dimension.vector ⟨-128, 0, 127, 0, 0, 0, 6⟩).reciprocal = none ∧
    (Dimension.vector ⟨-128, 0, 127, 0, 0, 0, 6⟩).root (BoundedInt.wrap .int8 (-1)) = none ∧
    (Dimension.vector ⟨300, 0, 0, 0, 0, 0, 0⟩).product
      (Dimension.vector ⟨500, 0, 0, 0, 0, 0, 0⟩) =
      some (Dimension.vector ⟨800, 0, 0, 0, 0, 0, 0⟩) := by
  have hfits : Dimension.Fits ⟨-128, 0, 127, 0, 0, 0, 6⟩ := by
    intro d
    cases d <;> decide
  have hexact := (algebra_refines ⟨-128, 0, 127, 0, 0, 0, 6⟩ ⟨-128, 0, 127, 0, 0, 0, 6⟩
    (BoundedInt.wrap .int8 (-1))).1 hfits hfits
  refine ⟨hfits, hexact.2.2.1.eq_none_iff.mpr ?_, hexact.2.2.2.2.1.eq_none_iff.mpr ?_, ?_⟩
  · rintro a ha hopposite
    obtain rfl := Option.some.inj ha
    exact absurd (hopposite .length).2 (by decide)
  · rintro a ha hopposite
    obtain rfl := Option.some.inj ha
    exact absurd (hopposite .length).2 (by decide)
  · exact congrArg some ((algebra_refines ⟨300, 0, 0, 0, 0, 0, 0⟩ ⟨500, 0, 0, 0, 0, 0, 0⟩ 0).2.1
      (Dimension.vector ⟨32, 0, 0, 0, 0, 0, 0⟩) rfl)

end ExponentVector

end Metrology
