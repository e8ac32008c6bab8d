import Metrology.Declaration.Token

namespace Metrology

namespace Declaration

inductive Refusal where
  | chainedComparison
  | castFollowedBy (what : String)
  | attributedRange
  | bareLabel
  | suffixedInteger
  | largeInteger
  | negativeInteger
  | brokenInteger
  | nestedAttribute
  | missingSemicolon
  | openRangeInSlice
  | objectWithoutTrait
  | nothingImplemented
  | captureNotAllowed
  | conditionalConstant
  | unconditionalConstant
  | binderWithPolarity
  | parametersOfConditions
  | secondReceiver
  | lateReceiver
  | negativeInherent
  deriving DecidableEq, Repr

def Refusal.message : Refusal → String
  | .chainedComparison => "comparison operators cannot be chained"
  | .castFollowedBy what => "casts cannot be followed by " ++ what
  | .attributedRange => "attributes are not allowed on range expressions starting with `..`"
  | .bareLabel => "parentheses required"
  | .suffixedInteger => "expected unsuffixed integer"
  | .largeInteger => "number too large to fit in target type"
  | .negativeInteger => "invalid digit found in string"
  | .brokenInteger => "cannot parse string into token stream"
  | .nestedAttribute => "unexpected attribute inside of attribute"
  | .missingSemicolon => "unexpected token, expected `;`"
  | .openRangeInSlice => "range pattern is not allowed unparenthesized inside slice pattern"
  | .objectWithoutTrait => "at least one trait is required for an object type"
  | .nothingImplemented => "at least one trait must be specified"
  | .captureNotAllowed => "`use<...>` precise capturing syntax is not allowed here"
  | .conditionalConstant => "`[const]` is not allowed here"
  | .unconditionalConstant => "`const` is not allowed here"
  | .binderWithPolarity => "`for<...>` binder not allowed with `?` trait polarity modifier"
  | .parametersOfConditions => "generic parameters on `where` clauses are reserved for future use"
  | .secondReceiver => "unexpected second method receiver"
  | .lateReceiver => "unexpected method receiver"
  | .negativeInherent => "inherent impls cannot be negative"

inductive SyntaxError where
  /-- None of these was found, perhaps because the tokens ended. -/
  | expected (what : List String) (atEnd : Bool)
  /-- A name was needed, and a keyword was found. -/
  | keyword (word : String)
  | refused (cause : Refusal)
  /-- Tokens were left over, in a group with the delimiter or outside all of them. -/
  | stray (inside : Option Delimiter)
  /-- The phrases are nested too deeply; this does not happen with enough fuel. -/
  | tooDeep
  deriving DecidableEq, Repr

namespace SyntaxError

def choice : List String → String
  | [] => ""
  | [a] => a
  | [a, b] => a ++ " or " ++ b
  | names => "one of: " ++ ", ".intercalate names

def message : SyntaxError → String
  | .expected [] atEnd => if atEnd then "unexpected end of input" else "unexpected token"
  | .expected what atEnd =>
      (if atEnd then "unexpected end of input, expected " else "expected ") ++ choice what
  | .keyword word => "expected identifier, found keyword `" ++ word ++ "`"
  | .refused cause => cause.message
  | .stray none => "unexpected token"
  | .stray (some d) => "unexpected token, expected `" ++ d.closing.toString ++ "`"
  | .tooDeep => "unexpected token"

end SyntaxError

end Declaration

end Metrology
