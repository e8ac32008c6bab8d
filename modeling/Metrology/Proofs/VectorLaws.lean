import Mathlib.Data.Option.Basic
import Metrology.Dimension.Vector

namespace Metrology

namespace ExponentVector

variable {a b c : ExponentVector} {k m n : Exponent}

section Inverse

theorem product_eq_some_iff_quotient_eq_some :
    a.product b = some c ↔ c.quotient b = some a := by
  rw [product_eq_some_iff, quotient_eq_some_iff]
  refine forall_congr' fun d => ?_
  omega

theorem power_eq_some_iff_root_eq_some (hn : n ≠ 0) :
    a.power n = some c ↔ c.root n = some a := by
  have hval : n.val ≠ 0 := fun h => hn (BoundedInt.ext h)
  rw [power_eq_some_iff, root_eq_some_iff]
  simp [hval]

/-- The quotient is the exact inverse of the product, and the root that of the power. -/
theorem operations_invertible :
    (∀ a b c : ExponentVector, a.product b = some c ↔ c.quotient b = some a) ∧
    ∀ (a p : ExponentVector) (n : Exponent),
      n ≠ 0 → (a.power n = some p ↔ p.root n = some a) := by
  constructor
  · intro a b c
    exact product_eq_some_iff_quotient_eq_some
  · intro a p n hn
    exact power_eq_some_iff_root_eq_some hn

/-- The ends of the range: `127` is `-127` to the power `-1`, and `-128` is `64` to the power
`-2`. -/
theorem operations_invertible_extremes :
    BoundedInt.wrap .int8 (-2) ≠ 0 ∧
    (Dimension.vector ⟨-128, 0, 0, 0, 0, 0, 0⟩).root (BoundedInt.wrap .int8 (-2)) =
      some (Dimension.vector ⟨64, 0, 0, 0, 0, 0, 0⟩) ∧
    (Dimension.vector ⟨127, 0, 0, 0, 0, 0, 0⟩).root (BoundedInt.wrap .int8 (-1)) =
      some (Dimension.vector ⟨-127, 0, 0, 0, 0, 0, 0⟩) :=
  ⟨by decide, (operations_invertible.2 _ _ _ (by decide)).mp rfl,
    (operations_invertible.2 _ _ _ (by decide)).mp rfl⟩

end Inverse

section Failure

/-- Seven integers are the exponents of a vector if all of them fit. -/
theorem exists_val_get_eq_iff {f : BaseDimension → Int} :
    (∃ v : ExponentVector, ∀ d, (v.get d).val = f d) ↔ ∀ d, -128 ≤ f d ∧ f d ≤ 127 := by
  constructor
  · rintro ⟨v, hv⟩ d
    rw [← hv d]
    exact ⟨(v.get d).min_le, (v.get d).le_max⟩
  · intro h
    refine ⟨Exponents.ofFn fun d => ⟨f d, (h d).1, (h d).2⟩, fun d => ?_⟩
    simp

theorem power_eq_none_iff :
    a.power n = none ↔ ∃ d, (a.get d).val * n.val < -128 ∨ 127 < (a.get d).val * n.val := by
  rw [← not_iff_not]
  calc
    ¬ a.power n = none ↔ ∃ c, a.power n = some c := Option.ne_none_iff_exists'
    _ ↔ ∃ c : ExponentVector, ∀ d, (c.get d).val = (a.get d).val * n.val := by
      simp only [power_eq_some_iff]
    _ ↔ ∀ d, -128 ≤ (a.get d).val * n.val ∧ (a.get d).val * n.val ≤ 127 := exists_val_get_eq_iff
    _ ↔ ¬ ∃ d, (a.get d).val * n.val < -128 ∨ 127 < (a.get d).val * n.val := by
      simp only [not_exists, not_or, Int.not_lt]

/-- Some exponent of the vector is the least one. -/
def HasLeast (v : ExponentVector) : Prop :=
  ∃ d, (v.get d).val = -128

theorem reciprocal_eq_none_iff : b.reciprocal = none ↔ b.HasLeast := by
  have hunit : (BoundedInt.wrap .int8 (-1)).val = -1 := rfl
  rw [reciprocal, power_eq_none_iff, hunit]
  refine exists_congr fun d => ?_
  have hmin : -128 ≤ (b.get d).val := (b.get d).min_le
  have hmax : (b.get d).val ≤ 127 := (b.get d).le_max
  omega

end Failure

section Reciprocal

theorem reciprocal_bind_product_of_hasLeast (a : ExponentVector) (hb : b.HasLeast) :
    b.reciprocal.bind a.product = none := by
  rw [reciprocal_eq_none_iff.mpr hb, Option.bind_none]

theorem reciprocal_bind_product (a : ExponentVector) (hb : ¬ b.HasLeast) :
    b.reciprocal.bind a.product = a.quotient b := by
  rw [← reciprocal_eq_none_iff] at hb
  obtain ⟨r, hr⟩ := Option.ne_none_iff_exists'.mp hb
  rw [hr, Option.bind_some]
  rw [reciprocal_eq_some_iff] at hr
  ext1 c
  rw [product_eq_some_iff, quotient_eq_some_iff]
  refine forall_congr' fun d => ?_
  rw [hr d, Int.sub_eq_add_neg]

theorem quotient_self (b : ExponentVector) : b.quotient b = some dimensionless := by
  rw [quotient_eq_some_iff]
  intro d
  simp [dimensionless]

theorem reciprocal_eq_dimensionless_quotient (a : ExponentVector) :
    a.reciprocal = dimensionless.quotient a := by
  ext1 c
  rw [reciprocal_eq_some_iff, quotient_eq_some_iff]
  simp [dimensionless]

theorem reciprocal_reciprocal (h : a.reciprocal = some b) : b.reciprocal = some a := by
  rw [reciprocal_eq_some_iff] at h ⊢
  intro d
  rw [h d, Int.neg_neg]

end Reciprocal

section Power

theorem power_of_power_power (hk : k.val = m.val * n.val) (hb : a.power m = some b)
    (hc : b.power n = some c) : a.power k = some c := by
  rw [power_eq_some_iff] at hb hc ⊢
  intro d
  rw [hc d, hb d, hk, Int.mul_assoc]

theorem root_of_root_root (hk : k.val = m.val * n.val) (hb : a.root m = some b)
    (hc : b.root n = some c) : a.root k = some c := by
  rw [root_eq_some_iff] at hb hc ⊢
  refine ⟨?_, fun d => ?_⟩
  · rw [hk]
    exact Int.mul_ne_zero hb.1 hc.1
  · rw [hb.2 d, hc.2 d, hk, Int.mul_assoc, Int.mul_comm n.val]

theorem power_power_of_power (hk : k.val = m.val * n.val) (hc : a.power k = some c)
    (hb : a.power m = some b) : b.power n = some c := by
  rw [power_eq_some_iff] at hb hc ⊢
  intro d
  rw [hc d, hb d, hk, Int.mul_assoc]

/-- A factor of a number that fits does not fit only if it is `128`. -/
theorem eq_neg_one_of_mul_fits {x y : Int} (hy : y ≠ 0) (hmin : -128 ≤ x * y) (hmax : x * y ≤ 127)
    (hx : x < -128 ∨ 127 < x) : y = -1 ∧ x * y = -128 := by
  have hle : x.natAbs ≤ (x * y).natAbs := by
    rw [Int.natAbs_mul]
    exact Nat.le_mul_of_pos_right _ (Int.natAbs_pos.mpr hy)
  obtain rfl : x = 128 := by omega
  omega

theorem power_eq_none_iff_of_power (hn : n ≠ 0) (hk : k.val = m.val * n.val)
    (hc : a.power k = some c) : a.power m = none ↔ n.val = -1 ∧ c.HasLeast := by
  have hval : n.val ≠ 0 := fun h => hn (BoundedInt.ext h)
  have hexponent : ∀ d, (c.get d).val = (a.get d).val * m.val * n.val := by
    intro d
    rw [power_eq_some_iff.mp hc d, hk, Int.mul_assoc]
  rw [power_eq_none_iff]
  constructor
  · rintro ⟨d, hd⟩
    have hmin : -128 ≤ (c.get d).val := (c.get d).min_le
    have hmax : (c.get d).val ≤ 127 := (c.get d).le_max
    rw [hexponent d] at hmin hmax
    obtain ⟨hminus, hleast⟩ := eq_neg_one_of_mul_fits hval hmin hmax hd
    exact ⟨hminus, d, (hexponent d).trans hleast⟩
  · rintro ⟨hminus, d, hd⟩
    rw [hexponent d, hminus] at hd
    exact ⟨d, .inr (by omega)⟩

theorem power_product {p q r s : ExponentVector} (hp : a.product b = some p)
    (hq : a.power n = some q) (hr : b.power n = some r) (hs : q.product r = some s) :
    p.power n = some s := by
  rw [product_eq_some_iff] at hp hs
  rw [power_eq_some_iff] at hq hr ⊢
  intro d
  rw [hs d, hq d, hr d, hp d, Int.add_mul]

end Power

/-- Operations in a row against a single one. A reciprocal fails at the least exponent, where the
quotient need not; powers of powers and roots of roots are powers and roots by the product, and a
power by a product is taken in two steps unless the second one would have to undo a change of
sign that does not fit. -/
theorem composites_agree (a b : ExponentVector) (m n : Exponent) :
    ((b.HasLeast → b.reciprocal.bind a.product = none) ∧
      (¬ b.HasLeast → b.reciprocal.bind a.product = a.quotient b) ∧
      b.quotient b = some dimensionless) ∧
    (a.reciprocal = dimensionless.quotient a ∧
      ∀ r, a.reciprocal = some r → r.reciprocal = some a) ∧
    (∀ k : Exponent, k.val = m.val * n.val → ∀ b' c,
      (a.power m = some b' → b'.power n = some c → a.power k = some c) ∧
      (a.root m = some b' → b'.root n = some c → a.root k = some c)) ∧
    (∀ k : Exponent, k.val = m.val * n.val → n ≠ 0 → ∀ c, a.power k = some c →
      (a.power m ≠ none → (a.power m).bind (power · n) = some c) ∧
      (a.power m = none ↔ n.val = -1 ∧ c.HasLeast)) ∧
    ∀ p q r s, a.product b = some p → a.power n = some q → b.power n = some r →
      q.product r = some s → p.power n = some s := by
  refine ⟨⟨reciprocal_bind_product_of_hasLeast a, reciprocal_bind_product a, quotient_self b⟩,
    ⟨reciprocal_eq_dimensionless_quotient a, fun _ => reciprocal_reciprocal⟩, ?_, ?_, ?_⟩
  · intro k hk b' c
    exact ⟨power_of_power_power hk, root_of_root_root hk⟩
  · intro k hk hn c hc
    refine ⟨fun hm => ?_, power_eq_none_iff_of_power hn hk hc⟩
    obtain ⟨b', hb⟩ := Option.ne_none_iff_exists'.mp hm
    rw [hb, Option.bind_some]
    exact power_power_of_power hk hc hb
  · intro p q r s
    exact power_product

/-- The power `-2` of `64` is `-128`, but not as the reciprocal of its square. -/
theorem composites_agree_least :
    ((Dimension.vector ⟨-128, 3, 0, 0, 0, 0, 0⟩).reciprocal.bind
        (Dimension.vector ⟨64, 2, 0, 0, 0, 0, 0⟩).product = none ∧
      (Dimension.vector ⟨-64, -2, 0, 0, 0, 0, 0⟩).reciprocal =
        some (Dimension.vector ⟨64, 2, 0, 0, 0, 0, 0⟩) ∧
      (Dimension.vector ⟨64, 2, 0, 0, 0, 0, 0⟩).root (BoundedInt.wrap .int8 (-2)) =
        some (Dimension.vector ⟨-32, -1, 0, 0, 0, 0, 0⟩) ∧
      (Dimension.vector ⟨64, 2, 0, 0, 0, 0, 0⟩).power (BoundedInt.wrap .int8 2) = none) ∧
    (Dimension.vector ⟨64, 2, 0, 0, 0, 0, 0⟩).power (BoundedInt.wrap .int8 1) =
      some (Dimension.vector ⟨64, 2, 0, 0, 0, 0, 0⟩) ∧
    (Dimension.vector ⟨-36, 5, 0, 0, 0, 0, 0⟩).power (BoundedInt.wrap .int8 (-1)) =
      some (Dimension.vector ⟨36, -5, 0, 0, 0, 0, 0⟩) := by
  constructor
  · obtain ⟨⟨hleast, -, -⟩, ⟨-, hreciprocal⟩, hrow, hpower, -⟩ := composites_agree
      (Dimension.vector ⟨64, 2, 0, 0, 0, 0, 0⟩) (Dimension.vector ⟨-128, 3, 0, 0, 0, 0, 0⟩)
      (BoundedInt.wrap .int8 2) (BoundedInt.wrap .int8 (-1))
    refine ⟨hleast ⟨.length, rfl⟩, hreciprocal _ rfl, ?_, ?_⟩
    · exact (hrow (BoundedInt.wrap .int8 (-2)) rfl (Dimension.vector ⟨32, 1, 0, 0, 0, 0, 0⟩) _).2
        rfl rfl
    · exact (hpower (BoundedInt.wrap .int8 (-2)) rfl (by decide) _ rfl).2.mpr ⟨rfl, .length, rfl⟩
  · obtain ⟨-, -, hrow, -, hproduct⟩ := composites_agree
      (Dimension.vector ⟨64, 2, 0, 0, 0, 0, 0⟩) (Dimension.vector ⟨-100, 3, 0, 0, 0, 0, 0⟩)
      (BoundedInt.wrap .int8 (-1)) (BoundedInt.wrap .int8 (-1))
    constructor
    · exact (hrow (BoundedInt.wrap .int8 1) rfl (Dimension.vector ⟨-64, -2, 0, 0, 0, 0, 0⟩) _).1
        rfl rfl
    · exact hproduct _ (Dimension.vector ⟨-64, -2, 0, 0, 0, 0, 0⟩)
        (Dimension.vector ⟨100, -3, 0, 0, 0, 0, 0⟩) _ rfl rfl rfl rfl

end ExponentVector

end Metrology
