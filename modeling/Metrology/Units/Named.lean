import Metrology.Binary.Arithmetic
import Metrology.Dimension.Vector
import Metrology.Units.Scale

namespace Metrology

structure NamedUnit where
  /-- The name by which the unit is asked for. -/
  label : String
  name : String
  symbol : String
  dimension : Dimension
  factor : Decimal := 1.0
  deriving DecidableEq

namespace NamedUnit

def gram : NamedUnit :=
  ⟨"Gram", "gram", "g", ⟨0, 1, 0, 0, 0, 0, 0⟩, 1e-3⟩

def meter : NamedUnit :=
  ⟨"Meter", "meter", "m", ⟨1, 0, 0, 0, 0, 0, 0⟩, 1.0⟩

def second : NamedUnit :=
  ⟨"Second", "second", "s", ⟨0, 0, 1, 0, 0, 0, 0⟩, 1.0⟩

def ampere : NamedUnit :=
  ⟨"Ampere", "ampere", "A", ⟨0, 0, 0, 1, 0, 0, 0⟩, 1.0⟩

def kelvin : NamedUnit :=
  ⟨"Kelvin", "kelvin", "K", ⟨0, 0, 0, 0, 1, 0, 0⟩, 1.0⟩

def mole : NamedUnit :=
  ⟨"Mole", "mole", "mol", ⟨0, 0, 0, 0, 0, 1, 0⟩, 1.0⟩

def candela : NamedUnit :=
  ⟨"Candela", "candela", "cd", ⟨0, 0, 0, 0, 0, 0, 1⟩, 1.0⟩

def newton : NamedUnit :=
  ⟨"Newton", "newton", "N", ⟨1, 1, -2, 0, 0, 0, 0⟩, 1.0⟩

def pascal : NamedUnit :=
  ⟨"Pascal", "pascal", "Pa", ⟨-1, 1, -2, 0, 0, 0, 0⟩, 1.0⟩

def joule : NamedUnit :=
  ⟨"Joule", "joule", "J", ⟨2, 1, -2, 0, 0, 0, 0⟩, 1.0⟩

def watt : NamedUnit :=
  ⟨"Watt", "watt", "W", ⟨2, 1, -3, 0, 0, 0, 0⟩, 1.0⟩

def coulomb : NamedUnit :=
  ⟨"Coulomb", "coulomb", "C", ⟨0, 0, 1, 1, 0, 0, 0⟩, 1.0⟩

def volt : NamedUnit :=
  ⟨"Volt", "volt", "V", ⟨2, 1, -3, -1, 0, 0, 0⟩, 1.0⟩

def farad : NamedUnit :=
  ⟨"Farad", "farad", "F", ⟨-2, -1, 4, 2, 0, 0, 0⟩, 1.0⟩

def ohm : NamedUnit :=
  ⟨"Ohm", "ohm", "Ohm", ⟨2, 1, -3, -2, 0, 0, 0⟩, 1.0⟩

def siemens : NamedUnit :=
  ⟨"Siemens", "siemens", "S", ⟨-2, -1, 3, 2, 0, 0, 0⟩, 1.0⟩

def weber : NamedUnit :=
  ⟨"Weber", "weber", "Wb", ⟨2, 1, -2, -1, 0, 0, 0⟩, 1.0⟩

def tesla : NamedUnit :=
  ⟨"Tesla", "tesla", "T", ⟨0, 1, -2, -1, 0, 0, 0⟩, 1.0⟩

def henry : NamedUnit :=
  ⟨"Henry", "henry", "H", ⟨2, 1, -2, -2, 0, 0, 0⟩, 1.0⟩

def lumen : NamedUnit :=
  ⟨"Lumen", "lumen", "lm", ⟨0, 0, 0, 0, 0, 0, 1⟩, 1.0⟩

def lux : NamedUnit :=
  ⟨"Lux", "lux", "lx", ⟨-2, 0, 0, 0, 0, 0, 1⟩, 1.0⟩

def becquerel : NamedUnit :=
  ⟨"Becquerel", "becquerel", "Bq", ⟨0, 0, -1, 0, 0, 0, 0⟩, 1.0⟩

def gray : NamedUnit :=
  ⟨"Gray", "gray", "Gy", ⟨2, 0, -2, 0, 0, 0, 0⟩, 1.0⟩

def sievert : NamedUnit :=
  ⟨"Sievert", "sievert", "Sv", ⟨2, 0, -2, 0, 0, 0, 0⟩, 1.0⟩

def hertz : NamedUnit :=
  ⟨"Hertz", "hertz", "Hz", ⟨0, 0, -1, 0, 0, 0, 0⟩, 1.0⟩

def all : List NamedUnit :=
  [gram, meter, second, ampere, kelvin, mole, candela, newton, pascal, joule, watt, coulomb, volt,
   farad, ohm, siemens, weber, tesla, henry, lumen, lux, becquerel, gray, sievert, hertz]

def ofLabel? (label : String) : Option NamedUnit :=
  all.find? fun u => u.label = label

def size (p : Precision) (u : NamedUnit) : Binary p :=
  Binary.ofDecimal false u.factor

/-- The size of a multiple of the unit: the size of the unit times the factor of the scaling. -/
def scaled (p : Precision) (u : NamedUnit) (s : Scaling) : Binary p :=
  (u.size p).mul (Binary.ofDecimal false s.factor)

/-- The unit and the scaling that a written unit such as `km` stands for. -/
def ofScaledSymbol? (text : String) : Option (NamedUnit × Scaling) :=
  (all.flatMap fun u => Scaling.all.map fun s => (u, s)).find? fun (u, s) =>
    s.symbol ++ u.symbol = text

end NamedUnit

end Metrology
