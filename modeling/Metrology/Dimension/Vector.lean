import Metrology.Dimension.Basic

/-!
Exponent vectors: dimensions whose exponents have eight bits. Their operations are those of the
exact exponents, and fail exactly where an exponent leaves the range: `product_eq_some_iff` and
its companions say so for each of them. `Dimension.vector` takes every exponent of a dimension
modulo `2 ^ 8`.
-/

namespace Metrology

abbrev Exponent :=
  BoundedInt .int8

abbrev ExponentVector :=
  Exponents Exponent

def Dimension.vector (a : Dimension) : ExponentVector :=
  a.map (BoundedInt.wrap .int8)

@[simp]
theorem Dimension.get_vector (a : Dimension) (d : BaseDimension) :
    a.vector.get d = BoundedInt.wrap .int8 (a.get d) :=
  Exponents.get_map _ a d

/-- Values of dimensions are compared by their vectors. -/
def Dimension.equals (a b : Dimension) : Bool :=
  a.vector = b.vector

namespace ExponentVector

def ofDimension? (a : Dimension) : Option ExponentVector :=
  Exponents.ofFn? fun d => BoundedInt.ofInt? .int8 (a.get d)

def toDimension (v : ExponentVector) : Dimension :=
  v.map BoundedInt.val

def dimensionless : ExponentVector :=
  Exponents.ofFn fun _ => 0

def base (d : BaseDimension) : ExponentVector :=
  (Dimension.base d).vector

def isDimensionless (v : ExponentVector) : Bool :=
  BaseDimension.all.all fun d => v.get d == 0

/-- One exponent is nonzero and the sum of all is one. -/
def isBase (v : ExponentVector) : Bool :=
  (BaseDimension.all.filter fun d => v.get d != 0).length == 1 &&
    BaseDimension.all.foldl (fun total d => total + (v.get d).val) 0 == 1

def product (v w : ExponentVector) : Option ExponentVector :=
  Exponents.ofFn? fun d => (v.get d).add? (w.get d)

def quotient (v w : ExponentVector) : Option ExponentVector :=
  Exponents.ofFn? fun d => (v.get d).sub? (w.get d)

def power (v : ExponentVector) (n : Exponent) : Option ExponentVector :=
  Exponents.ofFn? fun d => (v.get d).mul? n

def reciprocal (v : ExponentVector) : Option ExponentVector :=
  v.power (BoundedInt.wrap .int8 (-1))

def root (v : ExponentVector) (n : Exponent) : Option ExponentVector :=
  Exponents.ofFn? fun d => (v.get d).divExact? n

theorem product_eq_some_iff {v w u : ExponentVector} :
    v.product w = some u ↔ ∀ d, (u.get d).val = (v.get d).val + (w.get d).val := by
  unfold product
  rw [Exponents.ofFn?_eq_some_iff]
  exact forall_congr' fun _ => BoundedInt.add?_eq_some_iff

theorem quotient_eq_some_iff {v w u : ExponentVector} :
    v.quotient w = some u ↔ ∀ d, (u.get d).val = (v.get d).val - (w.get d).val := by
  unfold quotient
  rw [Exponents.ofFn?_eq_some_iff]
  exact forall_congr' fun _ => BoundedInt.sub?_eq_some_iff

theorem power_eq_some_iff {v u : ExponentVector} {n : Exponent} :
    v.power n = some u ↔ ∀ d, (u.get d).val = (v.get d).val * n.val := by
  unfold power
  rw [Exponents.ofFn?_eq_some_iff]
  exact forall_congr' fun _ => BoundedInt.mul?_eq_some_iff

theorem root_eq_some_iff {v u : ExponentVector} {n : Exponent} :
    v.root n = some u ↔ n.val ≠ 0 ∧ ∀ d, (v.get d).val = (u.get d).val * n.val := by
  unfold root
  rw [Exponents.ofFn?_eq_some_iff]
  constructor
  · intro h
    exact ⟨(BoundedInt.divExact?_eq_some_iff.mp (h .length)).1,
      fun d => (BoundedInt.divExact?_eq_some_iff.mp (h d)).2⟩
  · rintro ⟨hn, h⟩ d
    exact BoundedInt.divExact?_eq_some_iff.mpr ⟨hn, h d⟩

theorem reciprocal_eq_some_iff {v u : ExponentVector} :
    v.reciprocal = some u ↔ ∀ d, (u.get d).val = -(v.get d).val := by
  unfold reciprocal
  rw [power_eq_some_iff]
  refine forall_congr' fun d => ?_
  have h : (BoundedInt.wrap .int8 (-1)).val = -1 := rfl
  rw [h, Int.mul_neg_one]

/-- The lexicographic order on the exponents. -/
def compare (v w : ExponentVector) : Ordering :=
  (BaseDimension.all.map fun d => Ord.compare (v.get d).val (w.get d).val).foldl Ordering.then .eq

/-- A power of a base unit: exponent one is written bare, a larger one with its sign. -/
def factorText (d : BaseDimension) (n : Int) : String :=
  if n = 1 then d.symbol
  else if 1 < n then d.symbol ++ "+" ++ n.natAbs.repr
  else d.symbol ++ "-" ++ n.natAbs.repr

/-- The nonzero powers in base order, separated by spaces. -/
def composed (v : ExponentVector) : String :=
  " ".intercalate
    ((BaseDimension.all.filter fun d => v.get d != 0).map fun d => factorText d (v.get d).val)

end ExponentVector

end Metrology
