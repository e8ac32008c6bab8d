namespace Metrology

/-- The integer operations that can leave the range of their type. -/
inductive Operator where
  | add
  | subtract
  | multiply
  | divide
  | negate
  deriving DecidableEq, Repr

def Operator.verb : Operator → String
  | .add => "add"
  | .subtract => "subtract"
  | .multiply => "multiply"
  | .divide => "divide"
  | .negate => "negate"

inductive Fault where
  | dimensionMismatch
  | noSuchRoot
  | dimensionless
  | notQuantity
  | notNumber
  | noSuchOperation
  | noSuchConversion
  | noSuchRegister
  | overflow (op : Operator)
  | divisionByZero
  | formatRange
  deriving DecidableEq, Repr

namespace Fault

/-- A static fault is decided by dimensions and number types alone, whatever the magnitudes
are. -/
def isStatic : Fault → Bool
  | .overflow _ | .divisionByZero | .formatRange => false
  | _ => true

def message : Fault → String
  | .dimensionMismatch => "dimension mismatch"
  | .noSuchRoot => "no such root"
  | .dimensionless => "dimensionless result"
  | .notQuantity => "not a quantity"
  | .notNumber => "not a number"
  | .noSuchOperation => "no such operation"
  | .noSuchConversion => "no such conversion"
  | .noSuchRegister => "no such register"
  | .overflow op => "attempt to " ++ op.verb ++ " with overflow"
  | .divisionByZero => "attempt to divide by zero"
  | .formatRange => "Formatting argument out of range"

end Fault

end Metrology
