import Metrology.Decimal

namespace Metrology

namespace Json

structure Literal where
  negative : Bool
  whole : List Char
  fraction : Option (List Char) := none
  exponent : Option (Bool × List Char) := none
  deriving DecidableEq

namespace Literal

/-- The value of a text of decimal digits. -/
def digitsValue (ds : List Char) : Nat :=
  Nat.ofDigitChars 10 ds 0

def scanDigits (cs : List Char) : List Char × List Char :=
  (cs.takeWhile Char.isDigit, cs.dropWhile Char.isDigit)

/-- At least one digit. -/
def scanDigits? (cs : List Char) : Option (List Char × List Char) :=
  let (ds, rest) := scanDigits cs
  if ds.isEmpty then none else some (ds, rest)

/-- Digits that start with a zero have no other. -/
def scanWhole (cs : List Char) : Option (List Char × List Char) := do
  let (ds, rest) ← scanDigits? cs
  if ds.head? = some '0' ∧ ds ≠ ['0'] then none else some (ds, rest)

def scanFraction : List Char → Option (Option (List Char) × List Char)
  | '.' :: cs => do
      let (ds, rest) ← scanDigits? cs
      some (some ds, rest)
  | cs => some (none, cs)

/-- The digits of an exponent after its mark. -/
def scanPower (cs : List Char) : Option ((Bool × List Char) × List Char) := do
  let (negative, cs) :=
    match cs with
    | '-' :: cs => (true, cs)
    | '+' :: cs => (false, cs)
    | cs => (false, cs)
  let (ds, rest) ← scanDigits? cs
  some ((negative, ds), rest)

def scanExponent : List Char → Option (Option (Bool × List Char) × List Char)
  | 'e' :: cs | 'E' :: cs => do
      let (power, rest) ← scanPower cs
      some (some power, rest)
  | cs => some (none, cs)

def scanUnsigned (negative : Bool) (cs : List Char) : Option (Literal × List Char) := do
  let (whole, cs) ← scanWhole cs
  let (fraction, cs) ← scanFraction cs
  let (exponent, cs) ← scanExponent cs
  some (⟨negative, whole, fraction, exponent⟩, cs)

def scan : List Char → Option (Literal × List Char)
  | '-' :: cs => scanUnsigned true cs
  | cs => scanUnsigned false cs

/-- A literal of digits alone is an integer. -/
def integer? (l : Literal) : Option Int :=
  match l.fraction, l.exponent with
  | none, none => some (if l.negative then -(digitsValue l.whole : Int) else digitsValue l.whole)
  | _, _ => none

def power (l : Literal) : Int :=
  match l.exponent with
  | some (true, ds) => -(digitsValue ds : Int)
  | some (false, ds) => digitsValue ds
  | none => 0

/-- The value without its sign. -/
def decimal (l : Literal) : Decimal :=
  let fraction := l.fraction.getD []
  ⟨digitsValue (l.whole ++ fraction), l.power - fraction.length⟩

end Literal

end Json

end Metrology
