import Metrology.Engineering
import Metrology.Quantity.Json
import Metrology.Quantity.Power
import Metrology.Units.Formula

namespace Metrology

namespace Program

abbrev Registers (α : Type) :=
  List (String × Value α)

namespace Registers

variable {α : Type}

def get (registers : Registers α) (name : String) : Except Fault (Value α) :=
  match List.lookup name registers with
  | some v => .ok v
  | none => .error .noSuchRegister

def quantity (registers : Registers α) (name : String) : Except Fault (Quantity α) := do
  (← registers.get name).quantity?

def number (registers : Registers α) (name : String) : Except Fault α := do
  (← registers.get name).number?

def set (registers : Registers α) (name : String) (v : Value α) : Registers α :=
  (name, v) :: registers.filter fun entry => entry.1 ≠ name

end Registers

/-- The steps for every number type. Operands are names of registers. -/
inductive Step (α : Type) where
  | quantity (d : Dimension) (x : α)
  | number (x : α)
  | zero (d : Dimension)
  | copy (x : String)
  | add (x y : String)
  | sub (x y : String)
  | inTermsOf (x y : String)
  | compare (x y : String)
  | mul (x y : String)
  | div (x y : String)
  | scale (x y : String)
  | divide (x y : String)
  | neg (x : String)
  | abs (x : String)
  | square (x : String)
  | cube (x : String)
  | sum (d : Dimension) (xs : List String)
  /-- The sum over references to the quantities. -/
  | sumOf (d : Dimension) (xs : List String)
  | magnitude (x : String)
  | isZero (x : String)
  | dimension (x : String)
  | display (spec : Spec) (x : String)
  | debug (spec : Spec) (x : String)
  | engineering (format : Engineering.Format) (x : String)
  | unitName (x : String)
  | unitSymbol (x : String)
  | magnitudeText (x : String)
  | json (x : String)
  | jsonWithUnit (x : String)

/-- The steps for the numbers that units are given in. -/
inductive UnitStep (α : Type) where
  | constant (formula : Formula)
  | measure (unit : NamedUnit) (scaling : Scaling) (x : α)
  | times (x y : String)
  | per (x y : String)
  | scaled (x y : String)
  | recip (x : String)
  | squared (x : String)
  | cubed (x : String)
  | pow (x : String) (n : Int)
  | root (x : String) (n : Int)
  | sqrt (x : String)

inductive Result (α : Type) where
  | value (v : Value α)
  | truth (b : Bool)
  | order (o : Option Ordering)
  | dimension (d : Dimension)
  | text (s : String)

variable {α : Type} [Arithmetic α] [Written α]

/-- The quantities of a sum, register by register. -/
def summands (registers : Registers α) (d : Dimension) (xs : List String) :
    Except Fault (List (Quantity α)) :=
  xs.mapM fun x => do
    let q ← registers.quantity x
    if q.dimension = d then return q else throw .dimensionMismatch

def pair {β : Type} (registers : Registers α) (x y : String)
    (f : Quantity α → Quantity α → Except Fault β) : Except Fault β := do
  let q ← registers.quantity x
  let r ← registers.quantity y
  f q r

def withNumber (registers : Registers α) (x y : String)
    (f : Quantity α → α → Except Fault (Quantity α)) : Except Fault (Result α) := do
  let q ← registers.quantity x
  let k ← registers.number y
  return .value (.quantity (← f q k))

def Step.run (registers : Registers α) : Step α → Except Fault (Result α)
  | .quantity d x => return .value (.quantity (← Quantity.build d (.ok x)))
  | .number x => return .value (.number x)
  | .zero d => return .value (.quantity (← Quantity.zero d))
  | .copy x => return .value (.quantity (← registers.quantity x))
  | .add x y => return .value (.quantity (← pair registers x y Quantity.add))
  | .sub x y => return .value (.quantity (← pair registers x y Quantity.sub))
  | .inTermsOf x y => return .value (.number (← pair registers x y Quantity.inTermsOf))
  | .compare x y => return .order (← pair registers x y Quantity.compare?)
  | .mul x y => do return .value (← (← registers.get x).mul (← registers.get y))
  | .div x y => do return .value (← (← registers.get x).div (← registers.get y))
  | .scale x y => withNumber registers x y Quantity.scale
  | .divide x y => withNumber registers x y Quantity.divide
  | .neg x => return .value (.quantity (← (← registers.quantity x).neg))
  | .abs x => return .value (.quantity (← (← registers.quantity x).abs))
  | .square x => return .value (← (← registers.quantity x).square)
  | .cube x => return .value (← (← registers.quantity x).cube)
  | .sum d xs => do return .value (.quantity (← Quantity.sum d (← summands registers d xs)))
  | .sumOf d xs => do
      let qs ← summands registers d xs
      return .value (.quantity (← Quantity.sumOf d qs.get (List.finRange qs.length)))
  | .magnitude x => return .value (.number (← registers.quantity x).magnitude)
  | .isZero x => return .truth (← registers.quantity x).isZero
  | .dimension x => return .dimension (← registers.quantity x).dimension
  | .display spec x => return .text ((← registers.quantity x).display spec)
  | .debug spec x => return .text ((← registers.quantity x).debug spec)
  | .engineering format x => return .text (← (← registers.quantity x).engineering format)
  | .unitName x => return .text (← registers.quantity x).unitName
  | .unitSymbol x => return .text (← registers.quantity x).unitSymbol
  | .magnitudeText x => return .text (← registers.quantity x).magnitudeText
  | .json x => return .text (← registers.quantity x).json
  | .jsonWithUnit x => return .text (← registers.quantity x).jsonWithUnit

end Program

end Metrology
