import Metrology.Binary.Arithmetic
import Metrology.Binary.Basic
import Metrology.Binary.Logarithm
import Metrology.Binary.Shortest
import Metrology.Binary.Text
import Metrology.Decimal
import Metrology.Declaration.Ahead
import Metrology.Declaration.Basic
import Metrology.Declaration.Constructor
import Metrology.Declaration.Grammar
import Metrology.Declaration.Grammar.Attribute
import Metrology.Declaration.Grammar.Bound
import Metrology.Declaration.Grammar.Definition
import Metrology.Declaration.Grammar.Expression
import Metrology.Declaration.Grammar.Function
import Metrology.Declaration.Grammar.Generics
import Metrology.Declaration.Grammar.Item
import Metrology.Declaration.Grammar.Member
import Metrology.Declaration.Grammar.Operation
import Metrology.Declaration.Grammar.Path
import Metrology.Declaration.Grammar.Pattern
import Metrology.Declaration.Grammar.Phrases
import Metrology.Declaration.Grammar.Precedence
import Metrology.Declaration.Grammar.Record
import Metrology.Declaration.Grammar.Statement
import Metrology.Declaration.Grammar.Type
import Metrology.Declaration.Lexer
import Metrology.Declaration.Refusal
import Metrology.Declaration.Scan
import Metrology.Declaration.Token
import Metrology.Declaration.TypeItem
import Metrology.Declaration.UnitAttribute
import Metrology.Dimension.Base
import Metrology.Dimension.Basic
import Metrology.Dimension.Named
import Metrology.Dimension.Text
import Metrology.Dimension.Vector
import Metrology.Engineering
import Metrology.Fault
import Metrology.Integer
import Metrology.Json.Content
import Metrology.Json.Literal
import Metrology.Json.Read
import Metrology.Json.Text
import Metrology.Number.Basic
import Metrology.Number.Kind
import Metrology.Program.Catalogue
import Metrology.Program.Run
import Metrology.Program.Step
import Metrology.Program.Vector
import Metrology.Quantity.Arithmetic
import Metrology.Quantity.Basic
import Metrology.Quantity.Json
import Metrology.Quantity.Power
import Metrology.Text.Printable
import Metrology.Text.Spec
import Metrology.Text.Word
import Metrology.Units.Customary
import Metrology.Units.Error
import Metrology.Units.Formula
import Metrology.Units.Info
import Metrology.Units.International
import Metrology.Units.Named
import Metrology.Units.Scale
import Metrology.Proofs.ChangeOfUnits
import Metrology.Proofs.Collapse
import Metrology.Proofs.JsonWriting
import Metrology.Proofs.StoredUnit
import Metrology.Proofs.UnitIdentity
import Metrology.Proofs.StoredEntries
import Metrology.Proofs.BinaryGrid
import Metrology.Proofs.Rounding
import Metrology.Proofs.NaturalLogarithm
import Metrology.Proofs.CommonLogarithm
import Metrology.Proofs.DecimalText
import Metrology.Proofs.EngineeringScale
import Metrology.Proofs.EngineeringPlaces
import Metrology.Proofs.EngineeringDigits
import Metrology.Proofs.EngineeringParts
import Metrology.Proofs.VectorLaws
import Metrology.Proofs.JsonIntegers
import Metrology.Proofs.StoredIntegers
import Metrology.Proofs.SumOrder
import Metrology.Proofs.Widening
import Metrology.Proofs.ShownIntegers
import Metrology.Proofs.DecimalReading
import Metrology.Proofs.ShortestDecimals
import Metrology.Proofs.JsonDecimals
import Metrology.Proofs.StoredBinary
import Metrology.Proofs.PowerProducts
import Metrology.Proofs.ExponentWidth
import Metrology.Proofs.PathReading
import Metrology.Proofs.AttributeEntries
import Metrology.Proofs.ConstructorNames
import Metrology.Proofs.ComposedText
