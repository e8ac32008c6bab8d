import Metrology.Binary.Basic

namespace Metrology

namespace Binary

variable {p : Precision}

def neg : Binary p → Binary p
  | .nan => .nan
  | .infinite negative => .infinite !negative
  | .finite negative code => .finite (!negative) code

def abs : Binary p → Binary p
  | .nan => .nan
  | .infinite _ => .infinite false
  | .finite _ code => .finite false code

/-- A sum of zero is negative only if both terms are. -/
def add : Binary p → Binary p → Binary p
  | .nan, _ => .nan
  | _, .nan => .nan
  | .infinite s, .infinite t => if s = t then .infinite s else .nan
  | .infinite s, .finite _ _ => .infinite s
  | .finite _ _, .infinite t => .infinite t
  | .finite s a, .finite t b =>
      let sum :=
        (if s then -(p.units a : Int) else p.units a) +
          (if t then -(p.units b : Int) else p.units b)
      if sum = 0 then zero (s && t) else round (sum < 0) sum.natAbs 1

def sub (x y : Binary p) : Binary p :=
  x.add y.neg

def mul : Binary p → Binary p → Binary p
  | .nan, _ => .nan
  | _, .nan => .nan
  | .infinite s, .infinite t => .infinite (s ^^ t)
  | .infinite s, .finite t b => if b.val = 0 then .nan else .infinite (s ^^ t)
  | .finite s a, .infinite t => if a.val = 0 then .nan else .infinite (s ^^ t)
  | .finite s a, .finite t b => round (s ^^ t) (p.units a * p.units b) (twoPow p.places)

def div : Binary p → Binary p → Binary p
  | .nan, _ => .nan
  | _, .nan => .nan
  | .infinite _, .infinite _ => .nan
  | .infinite s, .finite t _ => .infinite (s ^^ t)
  | .finite s _, .infinite t => zero (s ^^ t)
  | .finite s a, .finite t b =>
      if b.val = 0 then if a.val = 0 then .nan else .infinite (s ^^ t)
      else round (s ^^ t) (p.units a * twoPow p.places) (p.units b)

/-- The integer part of the square root, digit by digit in base two: `depth` digits suffice for
`n < 4 ^ depth`. -/
def floorSqrt : (depth : Nat) → (n : Nat) → Nat
  | 0, _ => 0
  | depth + 1, n =>
      let r := 2 * floorSqrt depth (n / 4)
      if (r + 1) * (r + 1) ≤ n then r + 1 else r

/-- The root is found in half units; an inexact one is moved off the half unit, to the side where
it lies. -/
def sqrt : Binary p → Binary p
  | .nan => .nan
  | .infinite negative => if negative then .nan else .infinite false
  | .finite negative code =>
      if code.val = 0 then .finite negative code
      else if negative then .nan
      else
        let n := 4 * (p.units code * twoPow p.places)
        let r := floorSqrt (n.log2 / 2 + 1) n
        round false (2 * r + if r * r = n then 0 else 1) 4

/-- The order of the values; both zeros are equal and a result that is not a number has no
order. -/
def compare? : Binary p → Binary p → Option Ordering
  | .nan, _ => none
  | _, .nan => none
  | .infinite s, .infinite t => some (Ord.compare t s)
  | .infinite s, .finite _ _ => some (if s then .lt else .gt)
  | .finite _ _, .infinite t => some (if t then .gt else .lt)
  | .finite s a, .finite t b =>
      some (Ord.compare (if s then -(p.units a : Int) else p.units a)
        (if t then -(p.units b : Int) else p.units b))

def isZero : Binary p → Bool
  | .finite _ code => code.val == 0
  | _ => false

def one : Binary p :=
  ofInt 1

/-- The integer part, toward zero. -/
def truncate? : Binary p → Option Int
  | .finite negative code =>
      let n := p.units code / twoPow p.places
      some (if negative then -(n : Int) else n)
  | _ => none

/-- The greatest integer that is not above the value. -/
def floor? : Binary p → Option Int
  | .finite negative code =>
      let n : Int := p.units code
      some ((if negative then -n else n) / twoPow p.places)
  | _ => none

def convert {q : Precision} : Binary p → Binary q
  | .nan => .nan
  | .infinite negative => .infinite negative
  | .finite negative code => round negative (p.units code * twoPow q.places) (twoPow p.places)

end Binary

/-- Square and multiply, from the lowest binary digit of `n` up; `digits` bounds their number. -/
def powerFrom {α : Type} (mul : α → α → α) : (digits : Nat) → (result factor : α) → (n : Nat) → α
  | 0, result, _, _ => result
  | digits + 1, result, factor, n =>
      let result := if n % 2 = 1 then mul result factor else result
      if n / 2 = 0 then result else powerFrom mul digits result (mul factor factor) (n / 2)

def power {α : Type} (mul : α → α → α) (one x : α) (n : Nat) : α :=
  powerFrom mul (n.log2 + 1) one x n

/-- The power by an integer: for a negative one the inverse of the positive power. -/
def integerPower {α : Type} (mul div : α → α → α) (one x : α) (n : Int) : α :=
  if n < 0 then div one (power mul one x n.natAbs) else power mul one x n.natAbs

namespace Binary

def toFloat (x : Binary .double) : Float :=
  Float.ofBits (UInt64.ofNat x.toBits)

def ofFloat (x : Float) : Binary .double :=
  ofBits .double x.toBits.toNat

def toFloat32 (x : Binary .single) : Float32 :=
  Float32.ofBits (UInt32.ofNat x.toBits)

def ofFloat32 (x : Float32) : Binary .single :=
  ofBits .single x.toBits.toNat

def pow : {p : Precision} → Binary p → Binary p → Binary p
  | .single, x, y => ofFloat32 (Float32.pow x.toFloat32 y.toFloat32)
  | .double, x, y => ofFloat (Float.pow x.toFloat y.toFloat)

end Binary

end Metrology
