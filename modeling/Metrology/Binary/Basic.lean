import Metrology.Decimal

/-!
Binary floating-point numbers of single and double precision.

A finite number is a sign and a code. The codes count the finite magnitudes upwards from zero, so
their order is the order of the magnitudes, and every magnitude is a whole number of units, where
the unit `2 ^ -places` is the least magnitude above zero. Every result is the nearest number to an
exact ratio of units, and of two nearest ones the one with the even code.
-/

namespace Metrology

inductive Precision where
  | single
  | double
  deriving DecidableEq, Repr

namespace Precision

def name : Precision → String
  | .single => "f32"
  | .double => "f64"

def fractionBits : Precision → Nat
  | .single => 23
  | .double => 52

/-- The number of exponents that finite numbers have. -/
def exponents : Precision → Nat
  | .single => 255
  | .double => 2047

/-- The unit is `2 ^ -places`. -/
def places : Precision → Nat
  | .single => 149
  | .double => 1074

def count (p : Precision) : Nat :=
  p.exponents * twoPow p.fractionBits

/-- The units in the magnitude of a code. -/
def units (p : Precision) (code : Nat) : Nat :=
  if code < twoPow p.fractionBits then code
  else (twoPow p.fractionBits + code % twoPow p.fractionBits) *
    twoPow (code / twoPow p.fractionBits - 1)

/-- The greatest code of at most `n` units. -/
def floorCode (p : Precision) (n : Nat) : Nat :=
  (n.log2 - p.fractionBits) * twoPow p.fractionBits + n / twoPow (n.log2 - p.fractionBits)

/-- The code nearest to `num / den` units; halfway it is the even one. -/
def nearestCode (p : Precision) (num den : Nat) : Nat :=
  let code := p.floorCode (num / den)
  let middle := (p.units code + p.units (code + 1)) * den
  if 2 * num < middle then code
  else if middle < 2 * num then code + 1
  else code + code % 2

theorem zero_lt_count (p : Precision) : 0 < p.count := by
  cases p <;> decide

end Precision

inductive Binary (p : Precision) where
  | nan
  | infinite (negative : Bool)
  | finite (negative : Bool) (code : Fin p.count)
  deriving DecidableEq

namespace Binary

variable {p : Precision}

def zero (negative : Bool) : Binary p :=
  .finite negative ⟨0, p.zero_lt_count⟩

instance : Zero (Binary p) :=
  ⟨zero false⟩

/-- The number nearest to `num / den` units, infinite beyond the finite range. -/
def round (negative : Bool) (num den : Nat) : Binary p :=
  if h : p.nearestCode num den < p.count then .finite negative ⟨p.nearestCode num den, h⟩
  else .infinite negative

def ofInt (n : Int) : Binary p :=
  round (n < 0) (n.natAbs * twoPow p.places) 1

/-- The number nearest to a decimal. The decimal magnitude is bounded first: beyond `10 ^ places`
every number is infinite and below `10 ^ -places` every one is zero. -/
def ofDecimal (negative : Bool) (d : Decimal) : Binary p :=
  if d.significand = 0 ∨ d.leading < -(p.places : Int) then zero negative
  else if (p.places : Int) < d.leading then .infinite negative
  else
    round negative (d.significand * tenPow d.exponent.toNat * twoPow p.places)
      (tenPow (-d.exponent).toNat)

/-- The bit position of the sign, as a power of two. -/
def signPlace (p : Precision) : Nat :=
  (p.exponents + 1) * twoPow p.fractionBits

/-- The number with a bit pattern: sign, exponent, fraction. -/
def ofBits (p : Precision) (bits : Nat) : Binary p :=
  let code := bits % signPlace p
  let negative := signPlace p ≤ bits
  if h : code < p.count then .finite negative ⟨code, h⟩
  else if code = p.count then .infinite negative
  else .nan

def toBits : Binary p → Nat
  | .nan => p.count + twoPow (p.fractionBits - 1)
  | .infinite negative => p.count + if negative then signPlace p else 0
  | .finite negative code => code + if negative then signPlace p else 0

def isNegative : Binary p → Bool
  | .nan => false
  | .infinite negative => negative
  | .finite negative _ => negative

end Binary

end Metrology
