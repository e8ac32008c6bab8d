import Metrology.Binary.Shortest
import Metrology.Text.Spec

namespace Metrology

/-- The quotient rounded to the nearest integer, halfway to the even one. -/
def roundDiv (num den : Nat) : Nat :=
  let quotient := num / den
  let twice := 2 * (num % den)
  if twice < den then quotient
  else if den < twice then quotient + 1
  else quotient + quotient % 2

namespace Binary

variable {p : Precision}

/-- Shown numbers have no exponent. -/
def shown : Decimal.Layout :=
  ⟨fun _ => true, false, false⟩

/-- Numbers in records are marked as fractional, and have an exponent below `10 ^ -4` and from
`10 ^ 16` on. -/
def recorded : Decimal.Layout :=
  ⟨fun d => -4 ≤ d && d < 16, true, false⟩

/-- Numbers in data files are marked as fractional; the exponent always has a sign. -/
def stored : Precision → Decimal.Layout
  | .single => ⟨fun d => -6 ≤ d && d ≤ 12, true, true⟩
  | .double => ⟨fun d => -5 ≤ d && d ≤ 15, true, true⟩

/-- The exact value rounded to decimal places. -/
def fixedText (code : Fin p.count) (places : Nat) : String :=
  Decimal.pointed (roundDiv (p.units code * tenPow places) (twoPow p.places)) places

/-- The text without a sign. -/
def body (layout : Decimal.Layout) (precision : Option Nat) : Binary p → String
  | .nan => "NaN"
  | .infinite _ => "inf"
  | .finite _ code =>
      match precision with
      | some places => fixedText code places
      | none => layout.text (shortest .up code)

def text (layout : Decimal.Layout) (spec : Spec) (x : Binary p) : String :=
  spec.number (if x = .nan then "" else spec.sign x.isNegative) (x.body layout spec.precision)

def display (spec : Spec) (x : Binary p) : String :=
  x.text shown spec

def debug (spec : Spec) (x : Binary p) : String :=
  x.text recorded spec

/-- What is not finite is stored as null. -/
def json : Binary p → String
  | .finite negative code =>
      (if negative then "-" else "") ++ (stored p).text (shortest .even code)
  | _ => "null"

end Binary

end Metrology
