import Metrology.Binary.Arithmetic

/-!
The common logarithm in double precision. For `x = 2 ^ k * m` with `m` next to one it is
`k * log10 2 + log10 e * log m`. The logarithm of `m` is rounded once, `log10 2` is taken in two
parts, of which the high one multiplies exactly, and every step rounds.
-/

namespace Metrology

namespace Logarithm

/-- Fixed-point numbers here are multiples of `2 ^ -scale`. -/
def scale : Nat :=
  256

/-- The tail of `s + s ^ 3 / 3 + s ^ 5 / 5 + ...` from the term with denominator `odd` on, for
`term = s ^ odd`. -/
def series (square : Nat) : (terms odd term : Nat) → Nat
  | 0, _, _ => 0
  | terms + 1, odd, term =>
      term / odd + series square terms (odd + 2) (term * square / twoPow scale)

/-- The logarithm of `num / den`, between a half and two, in fixed point:
`2 * artanh ((num - den) / (num + den))`. -/
def fixed (num den : Nat) : Nat :=
  let s := (if num < den then den - num else num - den) * twoPow scale / (num + den)
  2 * series (s * s / twoPow scale) 96 1 s

/-- The double nearest to the logarithm of `num / den`, between a half and two. -/
def nearest (num den : Nat) : Binary .double :=
  Binary.round (num < den) (fixed num den * twoPow (Precision.places .double)) (twoPow scale)

/-- The part of `log10 2` with few digits, so that `k * high` is exact. -/
def high : Binary .double :=
  Binary.ofBits .double 0x3fd34413509f6000

def low : Binary .double :=
  Binary.ofBits .double 0x3d59fef311f12b36

/-- `log10 e`. -/
def perNatural : Binary .double :=
  Binary.ofBits .double 0x3fdbcb7b1526e50e

/-- The common logarithm of a finite number of `units` units, at least one. The factor `m` is in
`[1, 2)`, and for a negative `k` in `[1/2, 1)`. -/
def ofUnits (units : Nat) : Binary .double :=
  let k : Int := units.log2 - Precision.places .double
  let shift : Nat := if k < 0 then 1 else 0
  let y : Binary .double := Binary.ofInt (k + shift)
  let m := nearest units (twoPow (units.log2 + shift))
  ((y.mul low).add (perNatural.mul m)).add (y.mul high)

end Logarithm

/-- The common logarithm of the absolute value. -/
def Binary.log10 : Binary .double → Binary .double
  | .nan => .nan
  | .infinite _ => .infinite false
  | .finite _ code =>
      if code.val = 0 then .infinite true else Logarithm.ofUnits (Precision.units .double code)

end Metrology
