import Metrology.Dimension.Vector
import Metrology.Json.Read
import Metrology.Text.Spec

namespace Metrology

namespace Exponents

/-- The list of the values, where each follows the options. -/
def debug {α : Type} (item : α → String) (spread : Bool) (e : Exponents α) : String :=
  Record.list spread (e.toList.map item)

end Exponents

namespace ExponentVector

def debugList (spec : Spec) (v : ExponentVector) : String :=
  v.debug (fun n => spec.integer n.val) spec.alternate

def debug (spec : Spec) (v : ExponentVector) : String :=
  Record.applied spec.alternate "DimensionVector" [v.debugList spec]

/-- The stored form: the exponents in base order. -/
def json (v : ExponentVector) : String :=
  "[" ++ ",".intercalate (v.toList.map fun n => Decimal.signed false n.val) ++ "]"

def arrayText : String :=
  "an array of length 7"

/-- The exponents of a list after those already seen, in reverse. A list must have seven. -/
def readItems (seen : List Exponent) :
    Json.Items → Except Json.ReadError (ExponentVector × List Char)
  | .closed rest =>
      match Exponents.ofList? seen.reverse with
      | some v => .ok (v, rest)
      | none => .error (.invalidLength seen.length arrayText)
  | .broken => .error .malformed
  | .item c more =>
      if seen.length = 7 then .error .malformed
      else
        match Json.readInteger .int8 c with
        | .ok n => readItems (n :: seen) more
        | .error e => .error e

def read (text : String) : Except Json.ReadError ExponentVector := do
  let (c, rest) ← Json.readContent text
  match c with
  | .sequence =>
      let (v, rest) ← readItems [] (Json.Items.scan (rest.length + 1) true rest)
      Json.finish rest
      return v
  | c => throw (Json.mistyped c arrayText)

end ExponentVector

namespace Dimension

def debug (spec : Spec) (d : Dimension) : String :=
  Record.applied spec.alternate "Dimensions" [d.vector.debugList spec]

end Dimension

end Metrology
