import Metrology.Binary.Arithmetic
import Metrology.Dimension.Basic
import Metrology.Units.Scale

namespace Metrology

inductive Formula where
  | number (d : Decimal)
  | pi
  | unit (d : BaseDimension)
  | times (a b : Formula)
  | per (a b : Formula)

namespace Formula

def dimension : Formula → Dimension
  | .number _ => Dimension.dimensionless
  | .pi => Dimension.dimensionless
  | .unit d => Dimension.base d
  | .times a b => a.dimension.product b.dimension
  | .per a b => a.dimension.quotient b.dimension

/-- Every number and every operation is rounded. -/
def magnitude (p : Precision) : Formula → Binary p
  | .number d => Binary.ofDecimal false d
  | .pi => (Binary.ofBits .double 0x400921fb54442d18).convert
  | .unit _ => Binary.one
  | .times a b => (a.magnitude p).mul (b.magnitude p)
  | .per a b => (a.magnitude p).div (b.magnitude p)

def scaled (a : Formula) (d : Decimal) : Formula :=
  a.times (.number d)

def squared (a : Formula) : Formula :=
  a.times a

def cubed (a : Formula) : Formula :=
  a.squared.times a

def reciprocal (a : Formula) : Formula :=
  Formula.per (.number 1.0) a

end Formula

abbrev FormulaTable :=
  List (String × Formula)

def FormulaTable.find? (table : FormulaTable) (name : String) : Option Formula :=
  (List.find? (fun entry => entry.1 = name) table).map Prod.snd

end Metrology
