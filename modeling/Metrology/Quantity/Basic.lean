import Metrology.Dimension.Vector
import Metrology.Number.Basic
import Metrology.Units.Info

/-!
Quantities: a magnitude in base units, with a dimension. A quantity exists only where the exponent
vector of the dimension is not all zero. Whether a result collapses to a bare number is a matter
of the dimension itself, and `Value.collapse` is the one place where that is decided.
-/

namespace Metrology

/-- The dimension can be that of a quantity. -/
def Dimension.isMeasurable (d : Dimension) : Bool :=
  !d.vector.isDimensionless

structure Quantity (α : Type) where
  dimension : Dimension
  magnitude : α
  measurable : dimension.isMeasurable = true

inductive Value (α : Type) where
  | number (x : α)
  | quantity (q : Quantity α)

namespace Quantity

variable {α : Type}

/-- The quantity of a magnitude that may itself have failed. The dimension is checked first. -/
def build (d : Dimension) (magnitude : Except Fault α) : Except Fault (Quantity α) :=
  if h : d.isMeasurable = true then
    match magnitude with
    | .ok x => .ok ⟨d, x, h⟩
    | .error e => .error e
  else .error .dimensionless

theorem build_of_measurable {d : Dimension} (h : d.isMeasurable = true) (x : α) :
    build d (.ok x) = .ok ⟨d, x, h⟩ :=
  dif_pos h

theorem build_of_not_measurable {d : Dimension} (h : d.isMeasurable = false)
    (magnitude : Except Fault α) : build d magnitude = .error .dimensionless := by
  unfold build
  rw [dif_neg]
  simp [h]

def zero [Arithmetic α] (d : Dimension) : Except Fault (Quantity α) :=
  build d (.ok 0)

def withMagnitude {β : Type} (q : Quantity α) (magnitude : Except Fault β) :
    Except Fault (Quantity β) :=
  match magnitude with
  | .ok x => .ok ⟨q.dimension, x, q.measurable⟩
  | .error e => .error e

def vector (q : Quantity α) : ExponentVector :=
  q.dimension.vector

end Quantity

namespace Value

variable {α : Type}

/-- The value of a dimension: a bare number where every exponent is zero, else a quantity. -/
def collapse (d : Dimension) (magnitude : Except Fault α) : Except Fault (Value α) :=
  if d.isDimensionless then
    match magnitude with
    | .ok x => .ok (.number x)
    | .error e => .error e
  else
    match Quantity.build d magnitude with
    | .ok q => .ok (.quantity q)
    | .error e => .error e

theorem collapse_of_dimensionless {d : Dimension} (h : d.isDimensionless = true) (x : α) :
    collapse d (.ok x) = .ok (.number x) := by
  unfold collapse
  rw [if_pos h]

theorem collapse_of_not_measurable {d : Dimension} (h : d.isDimensionless = false)
    (h' : d.isMeasurable = false) (magnitude : Except Fault α) :
    collapse d magnitude = .error .dimensionless := by
  unfold collapse
  rw [if_neg (by simp [h]), Quantity.build_of_not_measurable h']

/-- Bare numbers have the dimension zero. -/
def dimension : Value α → Dimension
  | .number _ => Dimension.dimensionless
  | .quantity q => q.dimension

def magnitude : Value α → α
  | .number x => x
  | .quantity q => q.magnitude

def quantity? : Value α → Except Fault (Quantity α)
  | .quantity q => .ok q
  | .number _ => .error .notQuantity

def number? : Value α → Except Fault α
  | .number x => .ok x
  | .quantity _ => .error .notNumber

end Value

namespace Quantity

variable {α : Type} [Written α]

def unitSymbol (q : Quantity α) : String :=
  q.vector.symbol

def unitName (q : Quantity α) : String :=
  q.vector.name

def magnitudeText (q : Quantity α) : String :=
  Written.display {} q.magnitude

def display (spec : Spec) (q : Quantity α) : String :=
  Written.display spec q.magnitude ++ " " ++ q.unitSymbol

def debug (spec : Spec) (q : Quantity α) : String :=
  Record.fields spec.alternate "Quantity"
    [("magnitude", Written.debug spec q.magnitude), ("dimension", q.vector.debugList spec)]

end Quantity

end Metrology
