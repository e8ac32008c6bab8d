import Metrology.Declaration.Lexer
import Metrology.Declaration.UnitAttribute
import Metrology.Quantity.Basic
import Metrology.Units.International
import Metrology.Units.Named

namespace Metrology

namespace Declaration

structure Constructor where
  name : String
  documentation : String
  type : String
  /-- The dimension of the quantity that it gives. -/
  dimension : Expression
  /-- The name of the constant that scales the unit, if one does. -/
  scale : Option String

/-- The text as a single name, blanks and comments aside. -/
def singleName? (text : String) : Option String :=
  match tokens? text with
  | some [.word raw name] => if isName raw name then some (wordText raw name) else none
  | _ => none

def rawName (text : String) : Except NameError String :=
  if text.toList.all Char.isDigit then .error .number
  else if !isWord text.toList then .error (.invalid text)
  else if reservedWords.contains text then .error (.reserved text)
  else .ok (wordText true text)

def constructorName (text : String) : Except NameError String :=
  match singleName? text with
  | some name => .ok name
  | none => rawName text

/-- The number that a constructor gives, as an expression in its argument. -/
inductive Body where
  | argument
  /-- The size of the unit that is declared on a type. -/
  | size (type : String)
  | constant (name : String)
  | one
  | times (a b : Body)
  deriving DecidableEq, Repr

/-- The value where the argument is `x` and `units` are declared. -/
def Body.value? {p : Precision} (units : List NamedUnit) (x : Binary p) : Body → Option (Binary p)
  | .argument => some x
  | .size type => (units.find? fun u => u.label = type).map (NamedUnit.size p)
  | .constant name => (International.table.find? name).map (Formula.magnitude p)
  | .one => some (Binary.ofDecimal false 1.0)
  | .times a b => do return (← a.value? units x).mul (← b.value? units x)

/-- What the expressions of declarations stand for. -/
structure Scope where
  dimension : Expression → Option Dimension
  number : Expression → Option Decimal

namespace Constructor

def make (type : String) (unit : UnitAttribute) (s : Scaling) : Except NameError Constructor := do
  let name ← constructorName (s.symbol ++ unit.symbol)
  return {
    name
    documentation :=
      "`x` " ++ s.name ++ unit.name ++ " (`" ++ s.symbol ++ unit.symbol ++ "`) as a quantity."
    type
    dimension := unit.dimension
    scale := s.scale.map Scale.constantName
  }

/-- The argument times the size of the scaled unit. -/
def body (c : Constructor) : Body :=
  let scale :=
    match c.scale with
    | some name => Body.constant name
    | none => .one
  .times .argument (.times (.size c.type) scale)

/-- The scale as it is written: the name of a constant, or one. -/
def scaleText (c : Constructor) : String :=
  c.scale.getD "1.0"

/-- The quantity that the constructor gives, as far as all that it names is declared. -/
def call? {p : Precision} (scope : Scope) (units : List NamedUnit) (c : Constructor)
    (x : Binary p) : Option (Except Fault (Quantity (Binary p))) := do
  let d ← scope.dimension c.dimension
  let y ← c.body.value? units x
  return Quantity.build d (.ok y)

end Constructor

/-- The constructors in the order of the scalings; the first name that cannot be made is the
error. -/
def constructors (type : String) (unit : UnitAttribute) : Except NameError (List Constructor) :=
  Scaling.all.mapM (Constructor.make type unit)

end Declaration

end Metrology
