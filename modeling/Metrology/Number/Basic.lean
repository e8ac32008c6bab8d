import Metrology.Fault
import Metrology.Json.Read

namespace Metrology

/-- What every number type has. An operation may fail. -/
class Arithmetic (α : Type) extends Zero α where
  add : α → α → Except Fault α
  sub : α → α → Except Fault α
  mul : α → α → Except Fault α
  div : α → α → Except Fault α
  neg : α → Except Fault α
  abs : α → Except Fault α
  isZero : α → Bool
  compare? : α → α → Option Ordering

/-- Numbers whose multiplication and division always give a result. -/
class Fractional (α : Type) extends Arithmetic α where
  one : α
  times : α → α → α
  quotient : α → α → α
  pow : α → α → α
  sqrt : α → α
  ofExponent : BoundedInt .int8 → α
  mul_eq_times : ∀ x y, mul x y = .ok (times x y)
  div_eq_quotient : ∀ x y, div x y = .ok (quotient x y)

class Written (α : Type) where
  display : Spec → α → String
  debug : Spec → α → String
  json : α → String
  read : Json.Content → Except Json.ReadError α
  /-- The double for engineering notation, for the types that have one. -/
  toDouble? : Option (α → Binary .double)

namespace BoundedInt

variable {k : IntegerKind}

instance : Arithmetic (BoundedInt k) where
  add x y := orOverflow .add (x.add? y)
  sub x y := orOverflow .subtract (x.sub? y)
  mul x y := orOverflow .multiply (x.mul? y)
  div := div
  neg x := if k.signed then orOverflow .negate x.neg? else .error .noSuchOperation
  abs x := if k.signed then x.abs else .error .noSuchOperation
  isZero x := x.val == 0
  compare? x y := some (Ord.compare x.val y.val)

instance : Written (BoundedInt k) where
  display spec x := spec.integer x.val
  debug spec x := spec.integer x.val
  json x := Decimal.signed false x.val
  read := Json.readInteger k
  toDouble? := if k.bits ≤ 32 then some fun x => Binary.ofInt x.val else none

end BoundedInt

namespace Binary

variable {p : Precision}

instance : Fractional (Binary p) where
  add x y := .ok (x.add y)
  sub x y := .ok (x.sub y)
  mul x y := .ok (x.mul y)
  div x y := .ok (x.div y)
  neg x := .ok x.neg
  abs x := .ok x.abs
  isZero := isZero
  compare? := compare?
  one := one
  times := mul
  quotient := div
  pow := pow
  sqrt := sqrt
  ofExponent n := ofInt n.val
  mul_eq_times _ _ := rfl
  div_eq_quotient _ _ := rfl

instance : Written (Binary p) where
  display := display
  debug := debug
  json := json
  read := Json.readBinary p
  toDouble? := some convert

end Binary

end Metrology
