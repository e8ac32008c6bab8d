import Metrology.Binary.Logarithm
import Metrology.Quantity.Basic

namespace Metrology

namespace Engineering

structure Format where
  digits : Nat := 3
  /-- Write the exponent instead of the scale. -/
  exponential : Bool := false
  /-- Write a plus sign before what is not negative. -/
  showSign : Bool := false
  deriving DecidableEq

def Format.debug (spec : Spec) (format : Format) : String :=
  Record.fields spec.alternate "EngineeringFormat"
    [("digits", spec.integer format.digits), ("exponential", spec.boolean format.exponential),
     ("showpos", spec.boolean format.showSign)]

/-- The symbols of the scales for the degrees `0`, `-1`, `-2` and so on. -/
def fractionSymbols : List String :=
  ["", "m", "u", "n", "p", "f", "a", "z", "y"]

/-- The symbols of the scales for the degrees from zero up. -/
def multipleSymbols : List String :=
  ["", "k", "M", "G", "T", "P", "E", "Z", "Y"]

def scaleSymbol? (degree : Int) : Option String :=
  (if degree < 0 then fractionSymbols else multipleSymbols)[degree.natAbs]?

/-- The power of a thousand below the value. -/
def degree (value : Binary .double) : Int :=
  if value.isZero then 0 else ((value.log10.div (Binary.ofInt 3)).floor?).getD 0

def thousandPower (n : Nat) : Binary .double :=
  power Binary.mul Binary.one (Binary.ofInt 1000) n

/-- The value in terms of its degree. -/
def scaled (value : Binary .double) : Binary .double :=
  let d := degree value
  if 0 ≤ d then value.div (thousandPower d.natAbs) else value.mul (thousandPower d.natAbs)

/-- Twice the distance from one to the next number. -/
def slack : Binary .double :=
  Binary.ofBits .double 0x3cc0000000000000

/-- The decimal places of a scaled value. -/
def places (scaled : Binary .double) (digits : Nat) : Nat :=
  let digits : Binary .double := Binary.ofInt digits
  let exact :=
    if scaled.isZero then digits.sub Binary.one else (digits.sub scaled.log10).sub slack
  (exact.truncate?.getD 0).toNat

/-- The number in front of the scale or the exponent. A text has at most 65535 decimal places. -/
def mantissa (format : Format) (value : Binary .double) : Except Fault String :=
  let x := scaled value
  let n := places x format.digits
  if 65535 < n then .error .formatRange
  else .ok (x.display { plus := format.showSign, precision := some n })

/-- The exponent of a degree, without a sign if it is positive. -/
def exponentText (degree : Int) : String :=
  "e" ++ Decimal.signed false (3 * degree)

/-- Units of several factors stand in parentheses. -/
def unitText (unit : String) : String :=
  if unit.toList.any fun c => c == '+' || c == '-' || c == ' ' then "(" ++ unit ++ ")" else unit

/-- What follows the number: the scale next to the unit, or the exponent and the unit. -/
def tail (format : Format) (degree : Int) (unit : String) : String :=
  let gap := if unit = "" then "" else " "
  match if format.exponential then none else scaleSymbol? degree with
  | some symbol => if degree = 0 then gap ++ unitText unit else " " ++ symbol ++ unitText unit
  | none => exponentText degree ++ gap ++ unitText unit

def text (format : Format) (value : Binary .double) (unit : String) : Except Fault String :=
  match value with
  | .nan => .ok "NaN"
  | .infinite _ => .ok "INFINITE"
  | value => return (← mantissa format value) ++ tail format (degree value) unit

end Engineering

/-- Quantities of at most 32-bit integers and of binary numbers have an engineering notation. -/
def Quantity.engineering {α : Type} [Written α] (format : Engineering.Format) (q : Quantity α) :
    Except Fault String :=
  match (Written.toDouble? : Option (α → Binary .double)) with
  | some toDouble => Engineering.text format (toDouble q.magnitude) q.unitSymbol
  | none => .error .noSuchOperation

end Metrology
