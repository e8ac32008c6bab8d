import Metrology.Units.Info

namespace Metrology

namespace Program

inductive VectorStep where
  | product (v : ExponentVector)
  | quotient (v : ExponentVector)
  | reciprocal
  | power (n : Exponent)
  | root (n : Exponent)
  | set (v : ExponentVector)
  | compare (v : ExponentVector)
  | inspect (spec : Spec)

inductive VectorAnswer where
  | state (ok : Bool) (v : ExponentVector)
  | order (o : Ordering) (greater : ExponentVector)
  | details (spec : Spec) (v : ExponentVector)

namespace VectorStep

def move (state : ExponentVector) (next : Option ExponentVector) :
    VectorAnswer × ExponentVector :=
  match next with
  | some v => (.state true v, v)
  | none => (.state false state, state)

def run (state : ExponentVector) : VectorStep → VectorAnswer × ExponentVector
  | .product v => move state (state.product v)
  | .quotient v => move state (state.quotient v)
  | .reciprocal => move state state.reciprocal
  | .power n => move state (state.power n)
  | .root n => move state (state.root n)
  | .set v => move state (some v)
  | .compare v =>
      let o := state.compare v
      (.order o (if o = .gt then state else v), state)
  | .inspect spec => (.details spec state, state)

def runAll (state : ExponentVector) : List VectorStep → List VectorAnswer
  | [] => []
  | step :: rest =>
      let (answer, state) := step.run state
      answer :: runAll state rest

end VectorStep

end Program

end Metrology
