import Metrology.Dimension.Text
import Metrology.Units.Named

namespace Metrology

structure UnitInfo where
  name : String
  symbol : String
  dimension : ExponentVector
  deriving DecidableEq

namespace UnitInfo

def ofNamed (u : NamedUnit) : UnitInfo :=
  ⟨u.name, u.symbol, u.dimension.vector⟩

def kilogram : UnitInfo :=
  ⟨"kilogram", "kg", Dimension.vector ⟨0, 1, 0, 0, 0, 0, 0⟩⟩

def meterPerSecond : UnitInfo :=
  ⟨"Meter per second", "m/s", Dimension.vector ⟨1, 0, -1, 0, 0, 0, 0⟩⟩

def one : UnitInfo :=
  ⟨"(dimensionless)", "[]", ExponentVector.dimensionless⟩

def registry : List UnitInfo :=
  [ofNamed .meter, kilogram, ofNamed .second, ofNamed .ampere, ofNamed .kelvin, ofNamed .mole,
   ofNamed .candela, ofNamed .newton, ofNamed .pascal, ofNamed .joule, ofNamed .watt,
   ofNamed .coulomb, ofNamed .volt, ofNamed .farad, ofNamed .ohm, ofNamed .siemens,
   ofNamed .weber, ofNamed .tesla, ofNamed .henry, ofNamed .lux, ofNamed .sievert, ofNamed .hertz,
   meterPerSecond, one]

def lookup (v : ExponentVector) : Option UnitInfo :=
  registry.find? fun info => info.dimension = v

def isRegistered (info : UnitInfo) : Bool :=
  info ∈ registry

/-- The unit is the one that its dimension is written in. -/
def isPreferred (info : UnitInfo) : Bool :=
  lookup info.dimension = some info

def debug (spec : Spec) (info : UnitInfo) : String :=
  Record.fields spec.alternate "UnitInfo"
    [("name", quoted info.name), ("symbol", quoted info.symbol),
      ("dimension", info.dimension.debug spec)]

end UnitInfo

namespace ExponentVector

def symbol (v : ExponentVector) : String :=
  match UnitInfo.lookup v with
  | some info => info.symbol
  | none => v.composed

def name (v : ExponentVector) : String :=
  match UnitInfo.lookup v with
  | some info => info.name
  | none => v.composed

end ExponentVector

end Metrology
