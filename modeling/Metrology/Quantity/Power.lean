import Metrology.Binary.Arithmetic
import Metrology.Quantity.Arithmetic

namespace Metrology

namespace Quantity

variable {α : Type} [Fractional α]

/-- The power by an integer; the magnitude takes the exponent in 32 bits. -/
def nthPower (q : Quantity α) (n : Int) : Except Fault (Value α) :=
  Value.collapse (q.dimension.power n)
    (.ok (integerPower Fractional.times Fractional.quotient Fractional.one q.magnitude
      (BoundedInt.wrap .int32 n).val))

/-- The root by an integer that divides every exponent; the magnitude takes the divisor in 8
bits. -/
def nthRoot (q : Quantity α) (n : Int) : Except Fault (Value α) :=
  match q.dimension.root? n with
  | some d =>
      Value.collapse d
        (.ok (Fractional.pow q.magnitude
          (Fractional.quotient Fractional.one (Fractional.ofExponent (BoundedInt.wrap .int8 n)))))
  | none => .error .noSuchRoot

def sqrt (q : Quantity α) : Except Fault (Value α) :=
  match q.dimension.root? 2 with
  | some d => Value.collapse d (.ok (Fractional.sqrt q.magnitude))
  | none => .error .noSuchRoot

def scaled (q : Quantity α) (k : α) : Quantity α :=
  ⟨q.dimension, Fractional.times q.magnitude k, q.measurable⟩

def times (q r : Quantity α) : Except Fault (Quantity α) :=
  build (q.dimension.product r.dimension) (.ok (Fractional.times q.magnitude r.magnitude))

def per (q r : Quantity α) : Except Fault (Quantity α) :=
  build (q.dimension.quotient r.dimension) (.ok (Fractional.quotient q.magnitude r.magnitude))

def recip (q : Quantity α) : Except Fault (Quantity α) :=
  build q.dimension.reciprocal (.ok (Fractional.quotient Fractional.one q.magnitude))

def squared (q : Quantity α) : Except Fault (Quantity α) :=
  q.times q

def cubed (q : Quantity α) : Except Fault (Quantity α) := do
  (← q.squared).times q

end Quantity

end Metrology
