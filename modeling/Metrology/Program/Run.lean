import Metrology.Number.Kind
import Metrology.Program.Catalogue
import Metrology.Program.Step

namespace Metrology

namespace Program

def UnitStep.run {p : Precision} (registers : Registers (Binary p)) :
    UnitStep (Binary p) → Except Fault (Value (Binary p))
  | .constant formula => Value.collapse formula.dimension (.ok (formula.magnitude p))
  | .measure unit scaling x =>
      return .quantity (← Quantity.build unit.dimension (.ok (x.mul (unit.scaled p scaling))))
  | .times x y => return .quantity (← pair registers x y Quantity.times)
  | .per x y => return .quantity (← pair registers x y Quantity.per)
  | .scaled x y => do
      let q ← registers.quantity x
      let k ← registers.number y
      return .quantity (q.scaled k)
  | .recip x => return .quantity (← (← registers.quantity x).recip)
  | .squared x => return .quantity (← (← registers.quantity x).squared)
  | .cubed x => return .quantity (← (← registers.quantity x).cubed)
  | .pow x n => do (← registers.quantity x).nthPower n
  | .root x n => do (← registers.quantity x).nthRoot n
  | .sqrt x => do (← registers.quantity x).sqrt

inductive AnyStep (α : Type) where
  | common (step : Step α)
  | unit (step : UnitStep α)

/-- A step, and the register that its value goes to. -/
structure Instruction (α : Type) where
  step : AnyStep α
  target : Option String := none

/-- A machine for one number type. Units are at hand only if that is the type that they are given
in. -/
structure Machine where
  kind : Number.Kind
  hasUnits : Bool
  deriving DecidableEq

namespace Machine

def storable (machine : Machine) : List Dimension :=
  if machine.hasUnits then catalogue else common

/-- A bare number can always be stored. -/
def canStore {α : Type} (machine : Machine) : Value α → Bool
  | .number _ => true
  | .quantity q => machine.storable.contains q.dimension

end Machine

def AnyStep.run :
    (kind : Number.Kind) → (hasUnits : Bool) → Registers kind.Carrier → AnyStep kind.Carrier →
      Except Fault (Result kind.Carrier)
  | _, _, registers, .common step => step.run registers
  | .binary _, true, registers, .unit step => return .value (← step.run registers)
  | _, _, _, .unit _ => .error .noSuchOperation

/-- What one instruction answers, and whether a value that was to be stored could be. -/
structure Answer (α : Type) where
  result : Except Fault (Result α)
  stored : Bool := true

namespace Machine

/-- A failed instruction leaves the registers as they were. -/
def step (machine : Machine) (registers : Registers machine.kind.Carrier)
    (instruction : Instruction machine.kind.Carrier) :
    Answer machine.kind.Carrier × Registers machine.kind.Carrier :=
  let result := instruction.step.run machine.kind machine.hasUnits registers
  match result, instruction.target with
  | .ok (.value v), some name =>
      if machine.canStore v then (⟨result, true⟩, registers.set name v)
      else (⟨result, false⟩, registers)
  | _, _ => (⟨result, true⟩, registers)

def run (machine : Machine) (registers : Registers machine.kind.Carrier) :
    List (Instruction machine.kind.Carrier) → List (Answer machine.kind.Carrier)
  | [] => []
  | instruction :: rest =>
      let (answer, registers) := machine.step registers instruction
      answer :: machine.run registers rest

end Machine

end Program

end Metrology
