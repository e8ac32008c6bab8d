import Metrology.Declaration.Grammar.Pattern
import Metrology.Declaration.Lexer

namespace Metrology

namespace Declaration

open Scan

/-- The marks at which a range without an end is over. -/
def rangeEnders : List String :=
  [",", ";", "?", "=>", "=", "+", "/", "%", "^", ">", "<=", "!=", "-=", "*=", "&=", "|=", "<<="]

def atRangeEnd (records : Bool) (ts : List Token) : Bool :=
  ts.isEmpty || atMarks rangeEnders ts || atPoint ts || (!records && atGroup .brace ts) ||
    atWord "as" ts

/-- What follows a cast and would apply to it, if there is such a thing. -/
def castFollower? (ts : List Token) : Option String :=
  if atPoint ts then
    if second (atWord "await") ts then some "`.await`"
    else if second atName ts && (third (atGroup .parenthesis) ts || third (atMark "::") ts) then
      some "a method call"
    else some "a field access"
  else if atMark "?" ts then some "`?`"
  else if atGroup .bracket ts then some "indexing"
  else if atGroup .parenthesis ts then some "a function call"
  else none

def atPoints : List Char → List (List Char)
  | [] => [[]]
  | c :: cs =>
      match atPoints cs with
      | [] => [[c]]
      | part :: parts => if c = '.' then [] :: part :: parts else (c :: part) :: parts

def partIndex (negative : Bool) (part : List Char) : Scan Token :=
  match Lexer.number? part with
  | some (.integer value suffix, _) => indexOf negative value suffix
  | some _ => throw (.expected ["integer literal"] false)
  | none => refuse .brokenInteger

/-- A number with points as indices, and whether a point is left at its end. -/
def indices (negative : Bool) (source : String) : Scan (List Token × Bool) := do
  let parts := atPoints source.toList
  let (first, others, pointed) :=
    match parts with
    | [] => ([], [], false)
    | first :: others =>
        if others.getLast? = some [] then (first, others.dropLast, true)
        else (first, others, false)
  let start ← partIndex negative first
  let more ← others.mapM fun part => do return [.mark '.' false, ← partIndex false part]
  return (start :: more.flatten ++ (if pointed then [.mark '.' false] else []), pointed)

/-- The marks of a range in an expression, and whether its end belongs to it. -/
def rangeLimits : Scan (List Token × Bool) := do
  let ts ← rest
  if atMark "..=" ts then return (← mark "..=", true)
  else if atMark "..." ts then expected ["`..=`"]
  else return (← mark "..", false)

variable (g : Phrases)

namespace Expression

/-- An expression with attributes before it. A range gets parentheses, so that they are about all
of it. -/
def attributed (attributes : List Token) (e : Expression) : Expression :=
  if attributes.isEmpty || e.loose then e
  else if e.shape = .range then { e with tokens := attributes ++ [.group .parenthesis e.tokens] }
  else { e with tokens := attributes ++ e.tokens }

def list : Phrase :=
  commaSeparated g.expressionTokens

def access (e : Expression) : Scan Expression := do
  let point ← mark "."
  let (found, pointed) ←
    match ← rest with
    | .literal .float source :: after => do
        advance after
        indices false source
    | .mark '-' _ :: .literal .float source :: after => do
        advance after
        indices true source
    | _ => pure ([], true)
  let front := e.tokens ++ point ++ found
  if !pointed then return { tokens := front }
  else if ← sees (atWord "await") then return { tokens := front ++ (← word "await") }
  else
    let (field, named) ← member
    let arguments ←
      if named then whenSeen (atMark "::") do return (← mark "::") ++ (← argumentList g).1
      else pure []
    if named && (!arguments.isEmpty || (← sees (atGroup .parenthesis))) then
      return { tokens := front ++ field ++ arguments ++ (← group .parenthesis (list g)) }
    else return { tokens := front ++ field }

def trailers (start : Expression) : Scan Expression :=
  repeated (fun e => do
    let ts ← rest
    if atGroup .parenthesis ts then
      return .yield { tokens := e.tokens ++ (← group .parenthesis (list g)) }
    else if atPoint ts && e.shape ≠ .range then return .yield (← access g e)
    else if atGroup .bracket ts then
      return .yield { tokens := e.tokens ++ (← group .bracket g.expressionTokens) }
    else if atMark "?" ts && e.shape ≠ .range then
      return .yield { tokens := e.tokens ++ (← mark "?") }
    else return .done e) start

/-- The right operand of an operator: it holds all operators that bind more tightly. -/
def rightOperand (records : Bool) (p : Precedence) : Scan Expression := do
  let first ← g.operand records
  repeated (fun e => do
    let ts ← rest
    let next := precedenceAhead ts
    if p.rank < next.rank || (next = p && p = .assignment) then
      let e ← g.operation records next e
      if (← rest).length = ts.length then return .done e else return .yield e
    else return .done e) first

def rangeEnd (records closed : Bool) : Phrase := do
  if !closed && (← sees (atRangeEnd records)) then return []
  else return (← rightOperand g records .range).tokens

/-- A range after its start, which may be missing. -/
def rangeFrom (records : Bool) (start : List Token) : Scan Expression := do
  let (marks, closed) ← rangeLimits
  return { tokens := start ++ marks ++ (← rangeEnd g records closed), shape := .range }

/-- The operators after an operand. A comparison cannot be compared, and a range is no operand. -/
def operation (records : Bool) (least : Precedence) (left : Expression) : Scan Expression :=
  repeated (fun e => do
    let ts ← rest
    if e.shape = .range then return .done e
    else
      match operator? ts with
      | some (spelling, p) =>
          if !p.atLeast least then return .done e
          else if p = .comparison && e.shape = .comparison then refuse .chainedComparison
          else
            let operator ← mark spelling
            let right ← rightOperand g records p
            let shape := if p = .comparison then Shape.comparison else .plain
            return .yield { e with tokens := e.tokens ++ operator ++ right.tokens, shape }
      | none =>
          if Precedence.assignment.atLeast least && atAssignment ts then
            let operator ← mark "="
            let right ← rightOperand g records .assignment
            return .yield
              { e with tokens := e.tokens ++ operator ++ right.tokens, shape := .plain }
          else if Precedence.range.atLeast least && atMark ".." ts then
            return .yield (← rangeFrom g records e.tokens)
          else if Precedence.cast.atLeast least && atWord "as" ts then
            let start ← word "as"
            let type ← g.typeTokens false
            match castFollower? (← rest) with
            | some what => refuse (.castFollowedBy what)
            | none =>
                return .yield { e with tokens := e.tokens ++ start ++ type, shape := .plain }
          else return .done e) left

def reference (records : Bool) : Phrase := do
  let ampersand ← mark "&"
  let raw ←
    whenSeen (fun ts => atWord "raw" ts && second (atWords ["mut", "const"]) ts) (word "raw")
  let mutability ← optionalWord "mut"
  let constancy ← if !raw.isEmpty && mutability.isEmpty then word "const" else pure []
  return ampersand ++ raw ++ mutability ++ constancy ++ (← g.operand records).tokens

/-- An operand, where `atom` reads one that has nothing before or after it. -/
def operand (atom : Scan Expression) (records : Bool) : Scan Expression := do
  let start ← rest
  let attributes ← outerAttributes g
  let ts ← rest
  if atMark "&" ts then return { tokens := attributes ++ (← reference g records) }
  else if atMarks ["*", "!", "-"] ts then
    let sign := ts.take 1
    advance (ts.drop 1)
    return { tokens := attributes ++ sign ++ (← g.operand records).tokens }
  else
    let e ← trailers g (← atom)
    if e.shape = .verbatim then return { e with tokens := ← since start }
    else if e.shape = .range && !attributes.isEmpty then refuse .attributedRange
    else return e.attributed attributes

end Expression

end Declaration

end Metrology
