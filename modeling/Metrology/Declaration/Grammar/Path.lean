import Metrology.Declaration.Grammar.Attribute

namespace Metrology

namespace Declaration

open Scan

/-- One of a list of arguments or parameters, with the comma after it. -/
structure Listed where
  tokens : List Token
  isLifetime : Bool
  comma : List Token := []

namespace Listed

def textAll (items : List Listed) : List Token :=
  items.flatMap fun item => item.tokens ++ item.comma

/-- The lifetimes first; a comma is added where one is needed between them and the others. -/
def lifetimesFirst (items : List Listed) : List Token :=
  let lifetimes := items.filter Listed.isLifetime
  let others := items.filter fun item => !item.isLifetime
  let lacksComma := (lifetimes.getLast?.map fun item => item.comma.isEmpty).getD false
  textAll lifetimes ++ (if lacksComma && !others.isEmpty then [.mark ',' false] else []) ++
    textAll others

/-- A list of arguments or parameters between angle brackets, and whether it is empty. -/
def inBrackets (item : Scan Listed) : Scan (List Token × Bool) := do
  let opening ← mark "<"
  let items ←
    repeated (fun read => do
      if ← sees (atMark ">") then return .done read
      else
        let found ← item
        if ← sees (atMark ">") then return .done (read ++ [found])
        else return .yield (read ++ [{ found with comma := ← mark "," }])) []
  let closing ← mark ">"
  return (opening ++ lifetimesFirst items ++ closing, items.isEmpty)

end Listed

structure Path where
  /-- The path without the arguments of its last segment. -/
  front : List Token
  arguments : List Token
  /-- The last segment has no arguments, or an empty list of them. -/
  bare : Bool
  plain : Bool
  /-- It is a single segment, without arguments in parentheses. -/
  single : Bool

namespace Path

def tokens (p : Path) : List Token :=
  p.front ++ p.arguments

def append (p : Path) (colons : List Token) (q : Path) : Path :=
  ⟨p.tokens ++ colons ++ q.front, q.arguments, q.bare, p.plain && q.plain, false⟩

end Path

/-- A list of parameters follows, and not a type in angle brackets. -/
def atParameters (ts : List Token) : Bool :=
  atMark "<" ts &&
    (second (atMarks [">", "#"]) ts || second (atWord "const") ts ||
      ((second atLifetime ts || second atName ts) &&
        (third (atMarks [">", ",", "="]) ts || third atColon ts)))

def atCall (ts : List Token) : Bool :=
  atGroup .parenthesis ts || (atMark "::" ts && third (atGroup .parenthesis) ts)

variable (g : Phrases)

/-- A constant as an argument: a literal, a name or a block. -/
def constantArgument : Phrase := do
  let ts ← rest
  if atLiteral ts then literal
  else if atName ts then name
  else if atGroup .brace ts then attributedBlock g
  else expected []

/-- One argument of a segment: a lifetime, a constant, a type, or what is said about an associated
type. -/
def argument : Scan Listed := do
  let ts ← rest
  if atLifetime ts && !second (atMark "+") ts then return ⟨← lifetime, true, []⟩
  else if atLiteral ts || atGroup .brace ts then return ⟨← constantArgument g, false, []⟩
  else
    let type ← g.type true
    if type.shape = .segment && (← sees (atMark "=")) then
      let equals ← mark "="
      let value ←
        if ← sees fun ts => atLiteral ts || atGroup .brace ts then constantArgument g
        else g.typeTokens true
      return ⟨type.tokens ++ equals ++ value, false, []⟩
    else if type.shape = .segment && (← sees (atMark ":")) then
      let colon ← mark ":"
      let bounds ← separatedWhile (atMarks [",", ">"]) "+" g.boundTokens
      return ⟨type.tokens ++ colon ++ bounds, false, []⟩
    else return ⟨type.tokens, false, []⟩

/-- The arguments of a segment, and whether there are none of them. -/
def argumentList : Scan (List Token × Bool) :=
  Listed.inBrackets (argument g)

/-- A type after an arrow, if there is one, and whether a path may go on after it. -/
def returnType (plus : Bool) : Scan (List Token × Bool) := do
  if ← sees (atMark "->") then
    let arrow ← mark "->"
    let type ← g.type plus
    return (arrow ++ type.tokens, type.shape = .parenthesized)
  else return ([], true)

namespace Path

/-- A segment. In an expression its arguments need double colons, since a bracket alone would
compare. -/
def segment (inExpression : Bool) : Scan Path := do
  if ← sees (atWords ["super", "self", "crate", "try"]) then
    return ⟨← anyWord, [], true, true, true⟩
  else
    let front ← nameOr ["Self"]
    let ts ← rest
    if (!inExpression && atMark "<" ts && !atMark "<=" ts && !atMark "<<=" ts) ||
        (atMark "::" ts && third (atMark "<") ts) then
      let colons ← optionalMark "::"
      let (found, bare) ← argumentList g
      return ⟨front, colons ++ found, bare, false, true⟩
    else return ⟨front, [], true, true, true⟩

/-- The segments after a path. Double colons before parentheses do not belong to it. -/
def more (inExpression : Bool) (start : Path) : Scan Path :=
  repeated (fun p => do
    if ← sees fun ts => atMark "::" ts && !third (atGroup .parenthesis) ts then
      let colons ← mark "::"
      return .yield (p.append colons (← segment g inExpression))
    else return .done p) start

def parse (inExpression : Bool) : Scan Path := do
  let root ← optionalMark "::"
  let first ← segment g inExpression
  more g inExpression
    ⟨root ++ first.front, first.arguments, first.bare, first.plain, root.isEmpty⟩

/-- A path that starts with a type in angle brackets. -/
def qualified (inExpression : Bool) : Scan Path := do
  let opening ← mark "<"
  let type ← g.typeTokens true
  let trait ← whenSeen (atWord "as") do
    let start ← word "as"
    return start ++ (← parse g false).tokens
  let closing ← mark ">"
  let colons ← mark "::"
  let start : Path := ⟨opening ++ type ++ trait ++ closing, [], true, false, false⟩
  let first := start.append colons (← segment g inExpression)
  repeated (fun p => do
    if ← sees (atMark "::") then
      let colons ← mark "::"
      return .yield (p.append colons (← segment g inExpression))
    else return .done p) first

/-- A path with arguments in parentheses in place of those of its last segment, and whether it may
go on. Double colons before the parentheses are not written. -/
def call (p : Path) : Scan (Path × Bool) := do
  discard (optionalMark "::")
  let arguments ← group .parenthesis (commaSeparated (g.typeTokens true))
  let (output, goesOn) ← returnType g false
  return (⟨p.front, arguments ++ output, false, false, false⟩, goesOn)

end Path

end Declaration

end Metrology
