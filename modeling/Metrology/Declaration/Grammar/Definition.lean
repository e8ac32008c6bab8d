import Metrology.Declaration.Grammar.Function

namespace Metrology

namespace Declaration

open Scan

/-- Where the conditions of a type definition may stand. -/
inductive ConditionPlace where
  | beforeEquals
  | afterEquals
  | both
  deriving DecidableEq, Repr

structure TypeDefinition where
  tokens : List Token
  /-- There is a colon, perhaps with bounds after it. -/
  bounded : Bool
  defined : Bool

def atInvocation (ts : List Token) : Bool :=
  atName ts || atWords ["self", "super", "crate"] ts || atMark "::" ts

def invocationStarts : List String :=
  ["identifier", "`self`", "`super`", "`crate`", "`::`"]

/-- A group, with a semicolon after it unless it is in braces. -/
def groupOrStatement : Phrase := do
  let braces ← sees (atGroup .brace)
  let found ← anyGroup
  if braces then return found else return found ++ (← mark ";")

def invocation : Phrase :=
  inOrder [modulePath, mark "!", groupOrStatement]

/-- An invocation as an item, which may give a name. -/
def itemInvocation : Phrase :=
  inOrder
    [modulePath, mark "!", whenSeen (fun ts => atName ts || atWord "try" ts) anyWord,
      groupOrStatement]

def constantName : Phrase := do
  if ← sees fun ts => atName ts || atWord "_" ts then anyWord else expected ["identifier", "`_`"]

variable (g : Phrases)

/-- A constant after its keyword, whether it has a value, and whether it has parameters or
conditions. -/
def constantAfterKeyword : Scan (List Token × Bool × Bool) := do
  let label ← constantName
  let parametric ← sees (atMark "<")
  let start ← inOrder [parameters g, mark ":", g.typeTokens true]
  let value ← whenSeen (atMark "=") (inOrder [mark "=", g.expressionTokens])
  let conditioned ← sees (atWord "where")
  let found ← conditions g
  let semicolon ← mark ";"
  return (label ++ start ++ value ++ found ++ semicolon, !value.isEmpty,
    parametric || conditioned)

/-- The definition of a type, which may be a default in an implementation. -/
def typeDefinition (defaults : Bool) (place : ConditionPlace) : Scan TypeDefinition := do
  let head ← inOrder
    [visibility, if defaults then optionalWord "default" else pure [], word "type", name,
      parameters g]
  let bounded ← sees (atMark ":")
  let bounds ← afterColon
    (separatedUntil (fun ts => atWord "where" ts || atMarks ["=", ";"] ts) "+" g.boundTokens)
  let conditioned ← sees (atWord "where")
  let early ← if place = .afterEquals then pure [] else conditions g
  let value ← whenSeen (atMark "=") (inOrder [mark "=", g.typeTokens true])
  let late ←
    if place = .beforeEquals || (place = .both && conditioned) then pure [] else conditions g
  let semicolon ← mark ";"
  return ⟨head ++ bounds ++ early ++ value ++ late ++ semicolon, bounded, !value.isEmpty⟩

end Declaration

end Metrology
