import Metrology.Number.Kind
import Metrology.Quantity.Basic

namespace Metrology

namespace Quantity

variable {α : Type} [Arithmetic α]

/-- An operation on two quantities of one dimension. -/
def sameDimension {β : Type} (q r : Quantity α) (result : Except Fault β) : Except Fault β :=
  if q.dimension = r.dimension then result else .error .dimensionMismatch

def add (q r : Quantity α) : Except Fault (Quantity α) :=
  q.sameDimension r (q.withMagnitude (Arithmetic.add q.magnitude r.magnitude))

def sub (q r : Quantity α) : Except Fault (Quantity α) :=
  q.sameDimension r (q.withMagnitude (Arithmetic.sub q.magnitude r.magnitude))

/-- How often the unit `r` goes into `q`. -/
def inTermsOf (q r : Quantity α) : Except Fault α :=
  q.sameDimension r (Arithmetic.div q.magnitude r.magnitude)

def neg (q : Quantity α) : Except Fault (Quantity α) :=
  q.withMagnitude (Arithmetic.neg q.magnitude)

def abs (q : Quantity α) : Except Fault (Quantity α) :=
  q.withMagnitude (Arithmetic.abs q.magnitude)

def scale (q : Quantity α) (k : α) : Except Fault (Quantity α) :=
  q.withMagnitude (Arithmetic.mul q.magnitude k)

def divide (q : Quantity α) (k : α) : Except Fault (Quantity α) :=
  q.withMagnitude (Arithmetic.div q.magnitude k)

def mul (q r : Quantity α) : Except Fault (Value α) :=
  Value.collapse (q.dimension.product r.dimension) (Arithmetic.mul q.magnitude r.magnitude)

def div (q r : Quantity α) : Except Fault (Value α) :=
  Value.collapse (q.dimension.quotient r.dimension) (Arithmetic.div q.magnitude r.magnitude)

def invert (k : α) (q : Quantity α) : Except Fault (Value α) :=
  Value.collapse q.dimension.reciprocal (Arithmetic.div k q.magnitude)

/-- The sum from zero, left to right. -/
def sum (d : Dimension) (qs : List (Quantity α)) : Except Fault (Quantity α) := do
  qs.foldlM add (← zero d)

/-- The same sum over references, each of which is read when its turn comes. -/
def sumOf {ι : Type} (d : Dimension) (read : ι → Quantity α) (references : List ι) :
    Except Fault (Quantity α) := do
  references.foldlM (fun total reference => total.add (read reference)) (← zero d)

def isZero (q : Quantity α) : Bool :=
  Arithmetic.isZero q.magnitude

def compare? (q r : Quantity α) : Except Fault (Option Ordering) :=
  q.sameDimension r (.ok (Arithmetic.compare? q.magnitude r.magnitude))

end Quantity

namespace Value

variable {α : Type} [Arithmetic α]

/-- Of two factors at least one is a quantity. -/
def mul : Value α → Value α → Except Fault (Value α)
  | .quantity q, .quantity r => q.mul r
  | .quantity q, .number k => return .quantity (← q.scale k)
  | .number k, .quantity q => return .quantity (← q.withMagnitude (Arithmetic.mul k q.magnitude))
  | .number _, .number _ => .error .notQuantity

def div : Value α → Value α → Except Fault (Value α)
  | .quantity q, .quantity r => q.div r
  | .quantity q, .number k => return .quantity (← q.divide k)
  | .number k, .quantity q => Quantity.invert k q
  | .number _, .number _ => .error .notQuantity

end Value

namespace Quantity

variable {α : Type} [Arithmetic α]

def square (q : Quantity α) : Except Fault (Value α) :=
  q.mul q

def cube (q : Quantity α) : Except Fault (Value α) := do
  (← q.square).mul (.quantity q)

end Quantity

namespace Quantity

variable {source : Number.Kind}

/-- Every number type can be cast to every other, and may lose something. -/
def cast (target : Number.Kind) (q : Quantity source.Carrier) : Quantity target.Carrier :=
  ⟨q.dimension, Number.Kind.cast q.magnitude, q.measurable⟩

/-- The conversion to a wider number type, which is also the implied one. -/
def convert (target : Number.Kind) (q : Quantity source.Carrier) :
    Except Fault (Quantity target.Carrier) :=
  q.withMagnitude (Number.Kind.widen target q.magnitude)

end Quantity

end Metrology
