import Metrology.Quantity.Arithmetic

namespace Metrology

/-- The inputs are named by `ι`, and the numbers in an expression are those of the magnitudes. -/
inductive Expression (ι α : Type) where
  | input (name : ι)
  | zero (d : Dimension)
  | number (x : α)
  | add (left right : Expression ι α)
  | sub (left right : Expression ι α)
  | neg (body : Expression ι α)
  | abs (body : Expression ι α)
  | mul (left right : Expression ι α)
  | square (body : Expression ι α)
  | cube (body : Expression ι α)
  | sum (d : Dimension) (summands : List (Expression ι α))

namespace Expression

variable {ι α : Type} [Arithmetic α]

mutual

/-- A bare number can only be a factor. -/
def eval (inputs : ι → Quantity α) : Expression ι α → Except Fault (Value α)
  | .input name => .ok (.quantity (inputs name))
  | .zero d => return .quantity (← Quantity.zero d)
  | .number x => .ok (.number x)
  | .add left right => do
      let q ← (← left.eval inputs).quantity?
      let r ← (← right.eval inputs).quantity?
      return .quantity (← q.add r)
  | .sub left right => do
      let q ← (← left.eval inputs).quantity?
      let r ← (← right.eval inputs).quantity?
      return .quantity (← q.sub r)
  | .neg body => do
      let q ← (← body.eval inputs).quantity?
      return .quantity (← q.neg)
  | .abs body => do
      let q ← (← body.eval inputs).quantity?
      return .quantity (← q.abs)
  | .mul left right => do
      let v ← left.eval inputs
      let w ← right.eval inputs
      v.mul w
  | .square body => do
      let q ← (← body.eval inputs).quantity?
      q.square
  | .cube body => do
      let q ← (← body.eval inputs).quantity?
      q.cube
  | .sum d summands => do
      let qs ← evalAll inputs summands
      return .quantity (← Quantity.sum d qs)

def evalAll (inputs : ι → Quantity α) : List (Expression ι α) → Except Fault (List (Quantity α))
  | [] => .ok []
  | e :: es => do
      let q ← (← e.eval inputs).quantity?
      let qs ← evalAll inputs es
      return q :: qs

end

end Expression

end Metrology
