import Mathlib.Algebra.BigOperators.Group.List.Defs
import Mathlib.Data.Rat.Sqrt
import Metrology.Proofs.Collapse
import Metrology.Proofs.Widening

/-!
Powers as products. The powers are found by squaring, so their factors are multiplied in another
order than in a product that goes on from factor to factor. Up to the third power, and for the
square of a square, the order is the same but for the two factors of one product. From then on the
results agree if the multiplication is exact.
-/

namespace Metrology

section Monoid

variable {M : Type} [Monoid M]

/-- The result so far times the open power of the factor does not change. -/
theorem powerFrom_eq_mul_pow (digits : Nat) (result factor : M) {n : Nat} (hn : n < 2 ^ digits) :
    powerFrom (· * ·) digits result factor n = result * factor ^ n := by
  induction digits generalizing result factor n with
  | zero =>
      have hzero : n = 0 := by simpa using hn
      simp [powerFrom, hzero]
  | succ digits ih =>
      have hlast : (if n % 2 = 1 then result * factor else result) =
          result * factor ^ (n % 2) := by
        rcases Nat.mod_two_eq_zero_or_one n with h | h <;> simp [h]
      have hsplit : factor ^ n = factor ^ (n % 2) * (factor * factor) ^ (n / 2) := by
        rw [← pow_two, ← pow_mul, ← pow_add, Nat.mod_add_div]
      simp only [powerFrom, hlast]
      split
      · rename_i h
        rw [hsplit, h, pow_zero, mul_one]
      · rw [ih _ _ (by omega), hsplit, mul_assoc]

theorem power_eq_pow (x : M) (n : Nat) : power (· * ·) 1 x n = x ^ n := by
  unfold power
  rw [powerFrom_eq_mul_pow _ _ _ Nat.lt_log2_self, one_mul]

end Monoid

namespace Fractional

variable (α : Type) [Fractional α]

/-- The factors of a product can be exchanged, and one is neutral. Nothing is said about products
of three factors. -/
structure IsUnital : Prop where
  comm : ∀ x y : α, times x y = times y x
  one_times : ∀ x : α, times one x = x

def IsAssociative : Prop :=
  ∀ x y z : α, times (times x y) z = times x (times y z)

variable {α}

def product (xs : List α) : α :=
  xs.foldr times one

/-- The product of as many copies as the exponent says, inverted for a negative one. -/
def copies (x : α) (n : Int) : α :=
  let found := product (List.replicate n.natAbs x)
  if n < 0 then quotient one found else found

namespace IsUnital

variable (h : IsUnital α)

include h

theorem times_one (x : α) : times x one = x :=
  (h.comm x one).trans (h.one_times x)

theorem power_two (x : α) : power times one x 2 = times x x := by
  change times one (times x x) = times x x
  exact h.one_times _

theorem power_three (x : α) : power times one x 3 = times (times x x) x := by
  change times (times one x) (times x x) = times (times x x) x
  rw [h.one_times, h.comm]

theorem power_four (x : α) : power times one x 4 = times (times x x) (times x x) := by
  change times one (times (times x x) (times x x)) = times (times x x) (times x x)
  exact h.one_times _

/-- Exact numbers under multiplication. -/
abbrev toCommMonoid (hassoc : IsAssociative α) : CommMonoid α where
  mul := times
  mul_assoc := hassoc
  one := one
  one_mul := h.one_times
  mul_one := h.times_one
  mul_comm := h.comm

theorem power_eq_product (hassoc : IsAssociative α) (x : α) (n : Nat) :
    power times one x n = product (List.replicate n x) := by
  let _ := h.toCommMonoid hassoc
  calc
    power times one x n = x ^ n := power_eq_pow x n
    _ = (List.replicate n x).prod := (List.prod_replicate n x).symm

theorem integerPower_eq_copies (hassoc : IsAssociative α) (x : α) (n : Int) :
    integerPower times quotient one x n = copies x n := by
  unfold integerPower copies
  rw [h.power_eq_product hassoc]

theorem copies_add (hassoc : IsAssociative α) (x : α) {m n : Int} (hm : 0 ≤ m) (hn : 0 ≤ n) :
    copies x (m + n) = times (copies x m) (copies x n) := by
  let _ := h.toCommMonoid hassoc
  have hpow : ∀ k : Nat, product (List.replicate k x) = x ^ k := fun k => List.prod_replicate k x
  unfold copies
  rw [if_neg (by omega), if_neg (by omega), if_neg (by omega), hpow, hpow, hpow,
    Int.natAbs_add_of_nonneg hm hn]
  exact pow_add x _ _

end IsUnital

end Fractional

namespace Binary

variable {p : Precision}

theorem mul_comm (x y : Binary p) : x.mul y = y.mul x := by
  cases x <;> cases y <;> simp only [mul, Bool.xor_comm, Nat.mul_comm]

theorem significand_range_lt (p : Precision) :
    2 * 2 ^ p.fractionBits * 2 ^ p.places < p.units p.count := by
  cases p <;> decide +kernel

/-- An integer with few enough digits is a number of its own. -/
theorem exists_ofInt_eq {n : Int} (hn : n.natAbs < 2 * 2 ^ p.fractionBits) :
    ∃ code : Fin p.count, p.units code = n.natAbs * 2 ^ p.places ∧
      (ofInt n : Binary p) = .finite (n < 0) code := by
  obtain ⟨code, hcode⟩ := Precision.exists_code_eq (s := p.places) hn
    ((Nat.mul_lt_mul_of_pos_right hn (Nat.two_pow_pos _)).trans (significand_range_lt p))
  refine ⟨code, hcode, round_units_mul _ code Nat.one_pos ?_⟩
  rw [hcode, Nat.mul_one, twoPow_eq]

theorem one_mul (x : Binary p) : one.mul x = x := by
  obtain ⟨code, hunits, hone⟩ := exists_ofInt_eq (p := p) (n := 1) (by cases p <;> decide)
  have hcode : code.val ≠ 0 := by
    intro hzero
    rw [hzero, Precision.units_of_lt (Nat.two_pow_pos _), Int.natAbs_one, Nat.one_mul] at hunits
    exact (Nat.two_pow_pos p.places).ne hunits
  unfold one
  rw [hone]
  cases x with
  | nan => rfl
  | infinite negative => simp [mul, hcode]
  | finite negative code' =>
      change round (false ^^ negative) _ _ = _
      rw [Bool.false_xor, hunits]
      exact round_units_mul negative code' (Nat.two_pow_pos _) (by rw [twoPow_eq]; ring)

theorem isUnital : Fractional.IsUnital (Binary p) :=
  ⟨mul_comm, one_mul⟩

end Binary

namespace Dimension

theorem power_two (a : Dimension) : a.power 2 = a.product a :=
  Exponents.ext_get fun d => by simp [mul_two]

theorem power_add (a : Dimension) (m n : Int) :
    a.power (m + n) = (a.power m).product (a.power n) :=
  Exponents.ext_get fun d => by simp [mul_add]

theorem product_dimensionless (a : Dimension) : a.product dimensionless = a :=
  Exponents.ext_get fun d => by simp [dimensionless, Exponents.get_ofFn]

theorem dimensionless_product (a : Dimension) : dimensionless.product a = a :=
  Exponents.ext_get fun d => by simp [dimensionless, Exponents.get_ofFn]

end Dimension

namespace Value

variable {α : Type}

theorem exists_collapse_eq_ok {d : Dimension} (h : ¬ d.InGap) (x : α) :
    ∃ v, collapse d (.ok x) = .ok v := by
  rcases d.trichotomy with hzero | hgap | hmeasurable
  · exact ⟨_, collapse_eq_map_number hzero _⟩
  · exact absurd hgap h
  · exact ⟨_, collapse_eq_map_quantity hmeasurable _⟩

theorem of_collapse_eq_ok {d : Dimension} {x : α} {v : Value α} (h : collapse d (.ok x) = .ok v) :
    v.dimension = d ∧ v.magnitude = x := by
  rcases d.trichotomy with hzero | hgap | hmeasurable
  · rw [collapse_eq_map_number hzero] at h
    obtain rfl := Except.ok.inj h
    refine ⟨Exponents.ext_get fun b => ?_, rfl⟩
    rw [hzero b]
    exact Exponents.get_ofFn _ b
  · rw [collapse_of_inGap hgap] at h
    cases h
  · rw [collapse_eq_map_quantity hmeasurable] at h
    obtain rfl := Except.ok.inj h
    exact ⟨rfl, rfl⟩

/-- One rule for all products with a quantity among the factors. -/
theorem mul_eq_collapse [Arithmetic α] {u v : Value α}
    (h : ∀ k l, ¬ (u = .number k ∧ v = .number l)) :
    u.mul v =
      collapse (u.dimension.product v.dimension) (Arithmetic.mul u.magnitude v.magnitude) := by
  cases u with
  | number k =>
      cases v with
      | number l => exact absurd ⟨rfl, rfl⟩ (h k l)
      | quantity q =>
          simp only [dimension, magnitude, Dimension.dimensionless_product]
          simp only [mul]
          rw [collapse_eq_map_quantity q.measurable, Quantity.withMagnitude_eq_map]
          cases Arithmetic.mul k q.magnitude <;> rfl
  | quantity q =>
      cases v with
      | number l =>
          simp only [dimension, magnitude, Dimension.product_dimensionless]
          simp only [mul, Quantity.scale]
          rw [collapse_eq_map_quantity q.measurable, Quantity.withMagnitude_eq_map]
          cases Arithmetic.mul q.magnitude l <;> rfl
      | quantity r => rfl

end Value

namespace Quantity

variable {α : Type} [Fractional α] (q : Quantity α)

theorem mul_eq_collapse_times (r : Quantity α) :
    q.mul r = Value.collapse (q.dimension.product r.dimension)
      (.ok (Fractional.times q.magnitude r.magnitude)) := by
  unfold mul
  rw [Fractional.mul_eq_times]

theorem powerMagnitude_of_range {n : Int} (hmin : IntegerKind.int32.min ≤ n)
    (hmax : n ≤ IntegerKind.int32.max) :
    q.powerMagnitude n =
      integerPower Fractional.times Fractional.quotient Fractional.one q.magnitude n := by
  unfold powerMagnitude
  rw [BoundedInt.val_wrap_of_mem hmin hmax]

theorem nthPower_eq_collapse (n : Int) :
    q.nthPower n = Value.collapse (q.dimension.power n) (.ok (q.powerMagnitude n)) :=
  rfl

theorem exists_nthPower_eq_ok {n : Int} (h : ¬ (q.dimension.power n).InGap) :
    ∃ v, q.nthPower n = .ok v :=
  Value.exists_collapse_eq_ok h _

theorem of_nthPower_eq_ok {n : Int} {v : Value α} (h : q.nthPower n = .ok v) :
    v.dimension = q.dimension.power n ∧ v.magnitude = q.powerMagnitude n :=
  Value.of_collapse_eq_ok h

theorem square_eq_collapse :
    q.square =
      Value.collapse (q.dimension.power 2) (.ok (Fractional.times q.magnitude q.magnitude)) := by
  rw [Dimension.power_two]
  exact q.mul_eq_collapse_times q

theorem exists_square_eq_quantity (h : ¬ (q.dimension.power 2).InGap) :
    ∃ r : Quantity α, q.square = .ok (.quantity r) := by
  obtain ⟨v, hv⟩ := Value.exists_collapse_eq_ok h (Fractional.times q.magnitude q.magnitude)
  rw [← square_eq_collapse] at hv
  cases v with
  | number m => exact absurd hv (q.square_ne_number m)
  | quantity r => exact ⟨r, hv⟩

section Unital

variable (h : Fractional.IsUnital α)

include h

theorem nthPower_two : q.nthPower 2 = q.square := by
  have hmagnitude : q.powerMagnitude 2 = Fractional.times q.magnitude q.magnitude :=
    (q.powerMagnitude_of_range (by decide) (by decide)).trans (h.power_two q.magnitude)
  rw [nthPower_eq_collapse, hmagnitude, square_eq_collapse]

/-- The power has the square as its second factor, and the product as its first. -/
theorem nthPower_three {r : Quantity α} (hr : q.square = .ok (.quantity r)) :
    q.nthPower 3 = q.cube := by
  obtain ⟨hdimension, hproduct⟩ := Value.of_collapse_eq_ok (q.square_eq_collapse.symm.trans hr)
  have hmagnitude : q.powerMagnitude 3 = Fractional.times r.magnitude q.magnitude := by
    rw [show r.magnitude = _ from hproduct]
    exact (q.powerMagnitude_of_range (by decide) (by decide)).trans (h.power_three q.magnitude)
  have hthree : q.dimension.power 3 = r.dimension.product q.dimension := by
    rw [show r.dimension = _ from hdimension]
    exact Exponents.ext_get fun d => by
      simp only [Dimension.get_power, Dimension.get_product]; ring
  have hcube : q.cube = r.mul q := by
    unfold cube
    rw [hr]
    rfl
  rw [nthPower_eq_collapse, hmagnitude, hthree, hcube, mul_eq_collapse_times]

theorem nthPower_four {r : Quantity α} (hr : q.square = .ok (.quantity r)) :
    q.nthPower 4 = r.square := by
  obtain ⟨hdimension, hproduct⟩ := Value.of_collapse_eq_ok (q.square_eq_collapse.symm.trans hr)
  have hmagnitude : q.powerMagnitude 4 = Fractional.times r.magnitude r.magnitude := by
    rw [show r.magnitude = _ from hproduct]
    exact (q.powerMagnitude_of_range (by decide) (by decide)).trans (h.power_four q.magnitude)
  have hfour : q.dimension.power 4 = r.dimension.power 2 := by
    rw [show r.dimension = _ from hdimension]
    exact Exponents.ext_get fun d => by simp only [Dimension.get_power]; ring
  rw [nthPower_eq_collapse, hmagnitude, hfour, square_eq_collapse]

theorem powerMagnitude_eq_copies (hassoc : Fractional.IsAssociative α) {n : Int}
    (hmin : IntegerKind.int32.min ≤ n) (hmax : n ≤ IntegerKind.int32.max) :
    q.powerMagnitude n = Fractional.copies q.magnitude n :=
  (q.powerMagnitude_of_range hmin hmax).trans (h.integerPower_eq_copies hassoc _ _)

theorem powerMagnitude_add (hassoc : Fractional.IsAssociative α) {m n : Int} (hm : 0 ≤ m)
    (hn : 0 ≤ n) (hmax : m + n ≤ IntegerKind.int32.max) :
    q.powerMagnitude (m + n) = Fractional.times (q.powerMagnitude m) (q.powerMagnitude n) := by
  have hmin : IntegerKind.int32.min ≤ 0 := IntegerKind.min_le_zero _
  rw [q.powerMagnitude_eq_copies h hassoc (by omega) hmax,
    q.powerMagnitude_eq_copies h hassoc (by omega) (by omega),
    q.powerMagnitude_eq_copies h hassoc (by omega) (by omega), h.copies_add hassoc _ hm hn]

theorem mul_eq_nthPower_add (hassoc : Fractional.IsAssociative α) {m n : Int} (hm : 0 ≤ m)
    (hn : 0 ≤ n) (hmax : m + n ≤ IntegerKind.int32.max) {u v : Value α}
    (hu : q.nthPower m = .ok u) (hv : q.nthPower n = .ok v) (hfactor : m ≠ 0 ∨ n ≠ 0) :
    u.mul v = q.nthPower (m + n) := by
  have hquantity : ∀ k l, ¬ (u = .number k ∧ v = .number l) := by
    rintro k l ⟨rfl, rfl⟩
    rcases hfactor with hzero | hzero
    · exact hzero ((q.nthPower_eq_number_iff m).mp ⟨k, hu⟩)
    · exact hzero ((q.nthPower_eq_number_iff n).mp ⟨l, hv⟩)
  rw [Value.mul_eq_collapse hquantity, Fractional.mul_eq_times, (q.of_nthPower_eq_ok hu).1,
    (q.of_nthPower_eq_ok hu).2, (q.of_nthPower_eq_ok hv).1, (q.of_nthPower_eq_ok hv).2,
    ← Dimension.power_add, ← q.powerMagnitude_add h hassoc hm hn hmax]
  rfl

end Unital

/-- Powers agree with products as far as these are accepted. The second, third and fourth power
need no more than that factors can be exchanged; with exact multiplication every power is the
product of its copies, and powers add up. Two bare numbers have no product among the values, so
the last part leaves them out. -/
theorem powers_are_products {α : Type} [Fractional α] (h : Fractional.IsUnital α)
    (q : Quantity α) :
    (¬ (q.dimension.power 2).InGap →
      ∃ r : Quantity α, q.square = .ok (.quantity r) ∧ q.nthPower 2 = .ok (.quantity r) ∧
        (¬ (q.dimension.power 3).InGap → ∃ v, q.cube = .ok v ∧ q.nthPower 3 = .ok v) ∧
        (¬ (q.dimension.power 4).InGap → ∃ v, r.square = .ok v ∧ q.nthPower 4 = .ok v)) ∧
    (Fractional.IsAssociative α →
      (∀ n, IntegerKind.int32.min ≤ n → n ≤ IntegerKind.int32.max →
        ¬ (q.dimension.power n).InGap →
        ∃ v, q.nthPower n = .ok v ∧ v.dimension = q.dimension.power n ∧
          v.magnitude = Fractional.copies q.magnitude n) ∧
      ∀ m n, 0 ≤ m → 0 ≤ n → m + n ≤ IntegerKind.int32.max →
        ¬ (q.dimension.power m).InGap → ¬ (q.dimension.power n).InGap →
        ¬ (q.dimension.power (m + n)).InGap →
        ∃ u v w, q.nthPower m = .ok u ∧ q.nthPower n = .ok v ∧ q.nthPower (m + n) = .ok w ∧
          w.magnitude = Fractional.times u.magnitude v.magnitude ∧
          w.dimension = u.dimension.product v.dimension ∧
          (m ≠ 0 ∨ n ≠ 0 → u.mul v = .ok w)) := by
  constructor
  · intro hsquare
    obtain ⟨r, hr⟩ := q.exists_square_eq_quantity hsquare
    refine ⟨r, hr, (q.nthPower_two h).trans hr, fun hcube => ?_, fun hfour => ?_⟩
    · obtain ⟨v, hv⟩ := q.exists_nthPower_eq_ok hcube
      exact ⟨v, (q.nthPower_three h hr).symm.trans hv, hv⟩
    · obtain ⟨v, hv⟩ := q.exists_nthPower_eq_ok hfour
      exact ⟨v, (q.nthPower_four h hr).symm.trans hv, hv⟩
  · intro hassoc
    constructor
    · intro n hmin hmax hgap
      obtain ⟨v, hv⟩ := q.exists_nthPower_eq_ok hgap
      obtain ⟨hdimension, hmagnitude⟩ := q.of_nthPower_eq_ok hv
      exact ⟨v, hv, hdimension, hmagnitude.trans (q.powerMagnitude_eq_copies h hassoc hmin hmax)⟩
    · intro m n hm hn hmax hgap hgap' hgap''
      obtain ⟨u, hu⟩ := q.exists_nthPower_eq_ok hgap
      obtain ⟨v, hv⟩ := q.exists_nthPower_eq_ok hgap'
      obtain ⟨w, hw⟩ := q.exists_nthPower_eq_ok hgap''
      have hfactors := q.of_nthPower_eq_ok hu
      have hfactors' := q.of_nthPower_eq_ok hv
      have hproduct := q.of_nthPower_eq_ok hw
      refine ⟨u, v, w, hu, hv, hw, ?_, ?_, fun hfactor => ?_⟩
      · rw [hproduct.2, hfactors.2, hfactors'.2, q.powerMagnitude_add h hassoc hm hn hmax]
      · rw [hproduct.1, hfactors.1, hfactors'.1, Dimension.power_add]
      · rw [q.mul_eq_nthPower_add h hassoc hm hn hmax hu hv hfactor, hw]

end Quantity

/-- Exact arithmetic. Fractional powers are there where the exponent is an integer. -/
instance : Fractional ℚ where
  zero := 0
  add x y := .ok (x + y)
  sub x y := .ok (x - y)
  mul x y := .ok (x * y)
  div x y := .ok (x / y)
  neg x := .ok (-x)
  abs x := .ok |x|
  isZero x := x == 0
  compare? x y := some (compare x y)
  one := 1
  times := (· * ·)
  quotient := (· / ·)
  pow x y := if y.den = 1 then x ^ y.num else 0
  sqrt := Rat.sqrt
  ofExponent n := n.val
  mul_eq_times _ _ := rfl
  div_eq_quotient _ _ := rfl

/-- A tenth of a meter in rounded arithmetic, whose powers are not exact, and two thirds of a
meter in exact arithmetic. -/
theorem Quantity.powers_are_products_meter :
    (∃ v, Quantity.cube ⟨⟨1, 0, 0, 0, 0, 0, 0⟩, Binary.ofBits .double 0x3fb999999999999a, rfl⟩ =
      .ok v ∧
      Quantity.nthPower ⟨⟨1, 0, 0, 0, 0, 0, 0⟩, Binary.ofBits .double 0x3fb999999999999a, rfl⟩ 3 =
        .ok v) ∧
    (∃ v, Quantity.nthPower ⟨⟨1, 0, 0, 0, 0, 0, 0⟩, (2 / 3 : ℚ), rfl⟩ (-4) = .ok v ∧
      v.magnitude = 81 / 16) ∧
    ∃ u v w, Quantity.nthPower ⟨⟨1, 0, 0, 0, 0, 0, 0⟩, (2 / 3 : ℚ), rfl⟩ 2 = .ok u ∧
      Quantity.nthPower ⟨⟨1, 0, 0, 0, 0, 0, 0⟩, (2 / 3 : ℚ), rfl⟩ 3 = .ok v ∧
      Quantity.nthPower ⟨⟨1, 0, 0, 0, 0, 0, 0⟩, (2 / 3 : ℚ), rfl⟩ (2 + 3) = .ok w ∧
        u.mul v = .ok w := by
  have haccepted : ∀ n : Int,
      ¬ (256 : Int) ∣ n → ¬ (Dimension.power ⟨1, 0, 0, 0, 0, 0, 0⟩ n).InGap := by
    rintro n hn ⟨-, hall⟩
    have hlength : (256 : Int) ∣ 1 * n := hall .length
    exact hn (by rwa [one_mul] at hlength)
  have hunital : Fractional.IsUnital ℚ := ⟨mul_comm, one_mul⟩
  obtain ⟨hrounded, -⟩ := powers_are_products Binary.isUnital
    ⟨⟨1, 0, 0, 0, 0, 0, 0⟩, Binary.ofBits .double 0x3fb999999999999a, rfl⟩
  obtain ⟨-, hexact⟩ := powers_are_products hunital ⟨⟨1, 0, 0, 0, 0, 0, 0⟩, (2 / 3 : ℚ), rfl⟩
  obtain ⟨hcopies, hsum⟩ := hexact mul_assoc
  obtain ⟨_, -, -, hcube, -⟩ := hrounded (haccepted 2 (by decide))
  obtain ⟨v, hv, -, hmagnitude⟩ :=
    hcopies (-4) (by decide) (by decide) (haccepted (-4) (by decide))
  obtain ⟨u, w, z, hu, hw, hz, -, -, hmul⟩ := hsum 2 3 (by decide) (by decide) (by decide)
    (haccepted 2 (by decide)) (haccepted 3 (by decide)) (haccepted (2 + 3) (by decide))
  refine ⟨hcube (haccepted 3 (by decide)), ⟨v, hv, hmagnitude.trans ?_⟩, u, w, z, hu, hw, hz,
    hmul (.inl (by decide))⟩
  decide +kernel

end Metrology
