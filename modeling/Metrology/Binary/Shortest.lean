import Metrology.Binary.Basic

namespace Metrology

/-- Which of two equally near decimals is taken. -/
inductive Tie where
  | up
  | even
  deriving DecidableEq, Repr

namespace Binary

variable {p : Precision}

def readsBack (code : Fin p.count) (d : Decimal) : Bool :=
  decide (ofDecimal false d = finite false code)

/-- The number of decimal digits before the point; negative for the zeros that follow it. -/
def decimalMagnitude (p : Precision) (units : Nat) : Int :=
  (Decimal.digits (units * tenPow p.places / twoPow p.places)).length - p.places

/-- The units in `10 ^ exponent`, as a ratio with the second component. -/
def gridStep (p : Precision) (exponent : Int) : Nat × Nat :=
  (tenPow exponent.toNat * twoPow p.places, tenPow (-exponent).toNat)

/-- The neighbours of a number on the grid of `10 ^ exponent`, the preferred one first. -/
def neighbours (p : Precision) (tie : Tie) (units : Nat) (exponent : Int) : List Decimal :=
  let (num, den) := gridStep p exponent
  let below := units * den / num
  let twice := 2 * (units * den)
  let middle := (2 * below + 1) * num
  let upper := middle < twice || (middle == twice && (tie = .up || below % 2 == 1))
  let pair : List Decimal := [⟨below, exponent⟩, ⟨below + 1, exponent⟩]
  if upper then pair.reverse else pair

/-- The first neighbour that reads back on the grids of `n` digits and finer ones. -/
def search (tie : Tie) (code : Fin p.count) (magnitude : Int) : (grids n : Nat) → Option Decimal
  | 0, _ => none
  | grids + 1, n =>
      match (neighbours p tie (p.units code) (magnitude - n)).find? (readsBack code) with
      | some d => some d
      | none => search tie code magnitude grids (n + 1)

/-- Every magnitude is exact with `places` decimal places. -/
def exact (p : Precision) (units : Nat) : Decimal :=
  ⟨units * Nat.pow 5 p.places, -p.places⟩

/-- On the grid of one digit the upper neighbour may be ten, which is one on the next grid. -/
def trimTen (d : Decimal) : Decimal :=
  if d.significand = 10 then ⟨1, d.exponent + 1⟩ else d

/-- The shortest decimal that reads back, and of these the nearest. The exact expansion stands
behind the search. -/
def shortest (tie : Tie) (code : Fin p.count) : Decimal :=
  if code.val = 0 then ⟨0, 0⟩
  else
    let units := p.units code
    match search tie code (decimalMagnitude p units) 17 1 with
    | some d => trimTen d
    | none => exact p units

end Binary

end Metrology
