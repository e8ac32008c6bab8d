import Metrology.Declaration.Grammar.Bound

namespace Metrology

namespace Declaration

open Scan

def typeStarts : List String :=
  ["`for`", "parentheses", "`fn`", "`unsafe`", "`extern`", "identifier", "`::`", "`<`", "`dyn`",
   "square brackets", "`*`", "`&`", "`!`", "`impl`", "`_`", "lifetime"]

/-- What may follow the lifetimes that a type is about. -/
def boundTypeStarts : List String :=
  ["identifier", "`fn`", "`unsafe`", "`extern`", "`super`", "`self`", "`Self`", "`crate`"]

def callingConvention : Phrase := do
  return (← word "extern") ++ (← whenSeen atText literal)

def optionalConvention : Phrase :=
  whenSeen (atWord "extern") callingConvention

/-- The last argument of a function that takes any number of them. -/
def atVariadic (ts : List Token) : Bool :=
  atMark "..." ts ||
    ((atName ts || atWord "_" ts) && second (atMark ":") ts && third (atMark "...") ts)

variable (g : Phrases)

namespace TypeExpression

def moreBounds : Phrase :=
  many (atMark "+") do
    let plus ← mark "+"
    return plus ++ (← g.bound false false).tokens

/-- An argument of a function type; only the first may be `self`. -/
def functionArgument (receiver : Bool) : Phrase := do
  let attributes ← outerAttributes g
  let start ← rest
  let mutable := receiver && atWord "mut" start && second (atWord "self") start
  if mutable then discard (word "mut")
  let ts ← rest
  let named := second atColon ts
  let isSelf := named && !(atName ts || atWord "_" ts) && receiver && atWord "self" ts
  let label ←
    if named && (atName ts || atWord "_" ts || isSelf) then inOrder [anyWord, mark ":"]
    else pure []
  let ts ← rest
  if receiver && !isSelf && atWord "mut" ts && second (atWord "self") ts then
    discard (inOrder [word "mut", word "self"])
    return attributes ++ (← since start)
  else if mutable && label.isEmpty then
    discard (word "self")
    return attributes ++ (← since start)
  else
    let type ← g.typeTokens true
    if mutable then return attributes ++ (← since start) else return attributes ++ label ++ type

def functionArguments : Phrase := do
  let (read, _) ←
    repeated (fun (read, first) => do
      if ← atEnd then return .done (read, first)
      else
        let read := read ++ (← outerAttributes g)
        let ts ← rest
        if atVariadic ts then
          let label ← if atMark "..." ts then pure [] else inOrder [anyWord, mark ":"]
          return .done (read ++ label ++ (← inOrder [mark "...", optionalMark ","]), first)
        else
          let read := read ++ (← functionArgument g first)
          if ← atEnd then return .done (read, false)
          else return .yield (read ++ (← mark ","), false)) ([], true)
  return read

def function : Phrase := do
  let start ← inOrder
    [optionalBinder g, optionalWord "unsafe", optionalConvention, word "fn",
     group .parenthesis (functionArguments g)]
  return start ++ (← returnType g false).1

inductive Parenthesized where
  /-- Nothing, or several types. -/
  | tuple (inner : List Token)
  | lifetimes (inner : List Token)
  | optionalTrait (inner : List Token)
  | one (type : TypeExpression)

def parentheses : Scan Parenthesized :=
  within .parenthesis do
    let ts ← rest
    if ts.isEmpty then return .tuple []
    else if atLifetime ts then return .lifetimes (← Bound.object g true)
    else if atMark "?" ts then return .optionalTrait (← traitBound g false).1
    else
      let first ← g.type true
      if ← sees (atMark ",") then
        let comma ← mark ","
        return .tuple (first.tokens ++ comma ++ (← commaSeparated (g.typeTokens true)))
      else return .one first

/-- A type in parentheses, which may be the first bound of a sum. -/
def parenthesized (plus : Bool) : Scan TypeExpression := do
  match ← parentheses g with
  | .tuple inner => return ⟨[.group .parenthesis inner], .other⟩
  | .lifetimes inner => return ⟨[.group .parenthesis inner], .parenthesized⟩
  | .optionalTrait inner =>
      let more ← moreBounds g
      return ⟨.group .parenthesis inner :: more, .sum more.isEmpty⟩
  | .one first =>
      let isBound := first.shape = .segment || first.shape = .path || first.shape = .sum true
      if plus && isBound && (← sees (atMark "+")) then
        return ⟨.group .parenthesis first.tokens :: (← moreBounds g), .sum false⟩
      else return ⟨[.group .parenthesis first.tokens], .parenthesized⟩

/-- A path as a type, with arguments in parentheses after it. -/
def path : Scan (Path × Bool) := do
  let qualified ← sees (atMark "<")
  let start ← if qualified then Path.qualified g false else Path.parse g false
  let found ←
    repeated (fun (p : Path) => do
      if p.bare && (← sees atCall) then
        let (p, goesOn) ← p.call g
        if goesOn then return .yield (← p.more g false) else return .yield p
      else return .done p) start
  return (found, qualified)

/-- The bounds after the first one of a sum; a plus sign may stand at the end. -/
def sumAfter (first : List Token) : Scan TypeExpression := do
  let (tokens, single) ←
    repeated (fun (tokens, single) => do
      if ← sees (atMark "+") then
        let tokens := tokens ++ (← mark "+")
        if ← sees (atBound false) then
          return .yield (tokens ++ (← g.bound false false).tokens, false)
        else return .done (tokens, false)
      else return .done (tokens, single)) (first, true)
  return ⟨tokens, .sum single⟩

/-- A type that starts with a path. `lifetimes` are those that it is about. -/
def named (plus : Bool) (lifetimes : List Token) : Scan TypeExpression := do
  let (p, qualified) ← path g
  if qualified then return ⟨lifetimes ++ p.tokens, .other⟩
  else if p.plain && (← sees atBang) then
    return ⟨p.tokens ++ (← inOrder [mark "!", anyGroup]), .other⟩
  else if plus && (← sees (atMark "+")) then sumAfter g (lifetimes ++ p.tokens)
  else if !lifetimes.isEmpty then return ⟨lifetimes ++ p.tokens, .sum true⟩
  else return ⟨p.tokens, if p.single then .segment else .path⟩

def pointer : Phrase := do
  let star ← mark "*"
  let ts ← rest
  let kind ←
    if atWord "const" ts then word "const"
    else if atWord "mut" ts then word "mut"
    else expected ["`const`", "`mut`"]
  return star ++ kind ++ (← g.typeTokens false)

def sequenceType : Phrase :=
  group .bracket do
    let element ← g.typeTokens true
    let length ← whenSeen (atMark ";") (inOrder [mark ";", g.expressionTokens])
    return element ++ length

def parse (plus : Bool) : Scan TypeExpression := do
  let lifetimes ← optionalBinder g
  let ts ← rest
  if !lifetimes.isEmpty &&
      !(atName ts || atWords ["fn", "unsafe", "extern", "super", "self", "Self", "crate"] ts) then
    expected boundTypeStarts
  else if atGroup .parenthesis ts then parenthesized g plus
  else if atWords ["fn", "unsafe", "extern"] ts then return ⟨lifetimes ++ (← function g), .other⟩
  else if atName ts || atWords pathWords ts || atMark "::" ts || atMark "<" ts then
    named g plus lifetimes
  else if atWord "dyn" ts then
    let start ← word "dyn"
    let star ← optionalMark "*"
    let bounds ← Bound.object g plus
    if star.isEmpty then return ⟨start ++ bounds, .other⟩ else return ⟨← since ts, .other⟩
  else if atGroup .bracket ts then return ⟨← sequenceType g, .other⟩
  else if atMark "*" ts then return ⟨← pointer g, .other⟩
  else if atMark "&" ts then
    return ⟨← inOrder
      [mark "&", whenSeen atLifetime lifetime, optionalWord "mut", g.typeTokens false], .other⟩
  else if atMark "!" ts then return ⟨← mark "!", .other⟩
  else if atWord "impl" ts then
    let start ← word "impl"
    return ⟨start ++ (← Bound.implemented g plus), .other⟩
  else if atWord "_" ts then return ⟨← word "_", .other⟩
  else if atLifetime ts then return ⟨← Bound.object g true, .other⟩
  else expected typeStarts

end TypeExpression

end Declaration

end Metrology
