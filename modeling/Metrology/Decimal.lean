namespace Metrology

def twoPow (n : Nat) : Nat :=
  Nat.pow 2 n

def tenPow (n : Nat) : Nat :=
  Nat.pow 10 n

/-- The number `significand * 10 ^ exponent`. -/
structure Decimal where
  significand : Nat
  exponent : Int
  deriving DecidableEq, Repr

namespace Decimal

def digits (n : Nat) : List Char :=
  n.repr.toList

/-- The exponent of the first digit. -/
def leading (d : Decimal) : Int :=
  d.exponent + (digits d.significand).length - 1

/-- The text of `n / 10 ^ places`. -/
def pointed (n places : Nat) : String :=
  if places = 0 then n.repr
  else
    let padded := List.replicate (places + 1 - (digits n).length) '0' ++ digits n
    String.ofList
      (padded.take (padded.length - places) ++ '.' :: padded.drop (padded.length - places))

def positional (d : Decimal) : String :=
  pointed (d.significand * tenPow d.exponent.toNat) (-d.exponent).toNat

def signed (plus : Bool) (n : Int) : String :=
  (if n < 0 then "-" else if plus then "+" else "") ++ n.natAbs.repr

def scientific (plus : Bool) (d : Decimal) : String :=
  let mantissa :=
    match digits d.significand with
    | first :: rest@(_ :: _) => first :: '.' :: rest
    | short => short
  String.ofList mantissa ++ "e" ++ signed plus d.leading

end Decimal

structure Decimal.Layout where
  /-- The exponents of the first digit that are written positionally. -/
  positional : Int → Bool
  /-- A whole number ends in a point and a zero. -/
  point : Bool
  /-- A positive exponent has a sign. -/
  plus : Bool

def Decimal.Layout.text (layout : Decimal.Layout) (d : Decimal) : String :=
  if layout.positional d.leading then
    if layout.point && 0 ≤ d.exponent then d.positional ++ ".0" else d.positional
  else d.scientific layout.plus

end Metrology
