import Metrology.Dimension.Base

namespace Metrology

abbrev Dimension :=
  Exponents Int

namespace Dimension

def dimensionless : Dimension :=
  Exponents.ofFn fun _ => 0

def base (d : BaseDimension) : Dimension :=
  Exponents.ofFn fun d' => if d' = d then 1 else 0

def product (a b : Dimension) : Dimension :=
  Exponents.ofFn fun d => a.get d + b.get d

def quotient (a b : Dimension) : Dimension :=
  Exponents.ofFn fun d => a.get d - b.get d

def reciprocal (a : Dimension) : Dimension :=
  Exponents.ofFn fun d => -a.get d

def power (a : Dimension) (n : Int) : Dimension :=
  Exponents.ofFn fun d => a.get d * n

/-- The root exists for a nonzero `n` that divides every exponent. -/
def root? (a : Dimension) (n : Int) : Option Dimension :=
  if n ≠ 0 ∧ BaseDimension.all.all fun d => a.get d % n = 0 then
    some (Exponents.ofFn fun d => a.get d / n)
  else none

def isDimensionless (a : Dimension) : Bool :=
  BaseDimension.all.all fun d => a.get d == 0

@[simp]
theorem get_product (a b : Dimension) (d : BaseDimension) :
    (a.product b).get d = a.get d + b.get d :=
  Exponents.get_ofFn _ d

@[simp]
theorem get_quotient (a b : Dimension) (d : BaseDimension) :
    (a.quotient b).get d = a.get d - b.get d :=
  Exponents.get_ofFn _ d

@[simp]
theorem get_reciprocal (a : Dimension) (d : BaseDimension) : a.reciprocal.get d = -a.get d :=
  Exponents.get_ofFn _ d

@[simp]
theorem get_power (a : Dimension) (n : Int) (d : BaseDimension) :
    (a.power n).get d = a.get d * n :=
  Exponents.get_ofFn _ d

theorem isDimensionless_iff {a : Dimension} : a.isDimensionless = true ↔ ∀ d, a.get d = 0 := by
  simp only [isDimensionless, List.all_eq_true, beq_iff_eq]
  exact ⟨fun h d => h d d.mem_all, fun h d _ => h d⟩

end Dimension

end Metrology
