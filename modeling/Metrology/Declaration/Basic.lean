import Metrology.Declaration.Constructor
import Metrology.Declaration.TypeItem
import Metrology.Text.Printable

namespace Metrology

namespace Declaration

namespace DeclarationError

/-- The wording, for the errors that have one. -/
def message? : DeclarationError → Option String
  | .notItem => none
  | .grammar error => some error.message
  | .unknownKey key => some ("unknown attribute `" ++ key ++ "`")
  | .missingKey key => some ("missing required attribute `" ++ key ++ "`")
  | .emptySymbol => some "`symbol` must not be empty"
  | .noAttribute => some "missing #[unit(...)] attribute"
  | .noArguments => some "expected attribute arguments in parentheses: #[unit(...)]"
  | .noParentheses => some "expected parentheses: #[unit(...)]"
  | .name .number => some "Ident cannot be a number; use Literal instead"
  | .name (.invalid text) => some (quoted text ++ " is not a valid Ident")
  | .name (.reserved word) => some ("`" ++ wordText true word ++ "` cannot be a raw identifier")

end DeclarationError

/-- The unit of the first attribute called `unit`. -/
def unitAttribute : List Attribute → Except DeclarationError UnitAttribute
  | [] => .error .noAttribute
  | a :: rest =>
      if a.isCalled "unit" then
        match a.content with
        | .nothing => .error .noArguments
        | .value => .error .noParentheses
        | .arguments inner => UnitAttribute.parse inner
      else unitAttribute rest

/-- Tokens as they are written, without white space; that of literals is left out too. -/
def writtenText (ts : List Token) : String :=
  String.ofList ((Token.textAll ts).toList.filter fun c => !Lexer.isWhite c)

/-- An expression as it is written, a text by its value. -/
def Expression.text (e : Expression) : String :=
  match e.shape with
  | .text value => value
  | _ => writtenText e.tokens

/-- A unit without a factor has the factor one. -/
def defaultFactor : Expression :=
  { tokens := [.literal .float "1.0"] }

structure DeclaredUnit where
  type : String
  name : String
  symbol : String
  dimension : Expression
  factor : Expression
  constructors : List Constructor

namespace DeclaredUnit

/-- The unit itself, as far as its expressions stand for a dimension and a number. -/
def named? (scope : Scope) (u : DeclaredUnit) : Option NamedUnit := do
  return ⟨u.type, u.name, u.symbol, ← scope.dimension u.dimension, ← scope.number u.factor⟩

/-- The dimension as it is written, if the expression is a type as well. -/
def dimensionText? (u : DeclaredUnit) : Option String :=
  (typeOf? u.dimension.tokens).map writtenText

end DeclaredUnit

def UnitAttribute.declared (type : String) (unit : UnitAttribute) (cs : List Constructor) :
    DeclaredUnit :=
  ⟨type, unit.name, unit.symbol, unit.dimension, unit.factor.getD defaultFactor, cs⟩

def ofItem (item : TypeItem) : Except DeclarationError DeclaredUnit := do
  let unit ← unitAttribute item.attributes
  match constructors item.name unit with
  | .error e => throw (.name e)
  | .ok found => return unit.declared item.name found

def readItem (text : String) : Except DeclarationError TypeItem :=
  match tokens? text with
  | none => .error .notItem
  | some ts =>
      match TypeItem.parse ts with
      | .ok item => .ok item
      | .error _ => .error .notItem

def declare (text : String) : Except DeclarationError DeclaredUnit := do
  ofItem (← readItem text)

end Declaration

end Metrology
