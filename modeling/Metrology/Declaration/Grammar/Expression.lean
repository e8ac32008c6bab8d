import Metrology.Declaration.Grammar.Operation

namespace Metrology

namespace Declaration

open Scan

/-- An expression follows, which may be missing. -/
def atExpression (ts : List Token) : Bool :=
  (atAnyWord ts && !atWord "as" ts) || Delimiter.all.any (fun d => atGroup d ts) ||
    atLiteral ts || atBang ts || (atMark "-" ts && !atMarks ["-=", "->"] ts) ||
    (atMark "*" ts && !atMark "*=" ts) || (atMark "|" ts && !atMark "|=" ts) ||
    (atMark "&" ts && !atMark "&=" ts) || atMark ".." ts ||
    (atMark "<" ts && !atMarks ["<=", "<<="] ts) || atMark "::" ts || atLifetime ts ||
    atMark "#" ts

def atClosureBinder (ts : List Token) : Bool :=
  atWord "for" ts && second atParameters ts

def atClosure (ts : List Token) : Bool :=
  atMark "|" ts || atWord "move" ts || atClosureBinder ts ||
    (atWord "const" ts && !second (atGroup .brace) ts) || atWord "static" ts ||
      (atWord "async" ts && (second (atMark "|") ts || second (atWord "move") ts))

def atAsyncBlock (ts : List Token) : Bool :=
  atWord "async" ts &&
    (second (atGroup .brace) ts || (second (atWord "move") ts && third (atGroup .brace) ts))

def atTryBlock (ts : List Token) : Bool :=
  atWord "try" ts && second (atGroup .brace) ts

def atPath (ts : List Token) : Bool :=
  atName ts || atMarks ["::", "<"] ts || atWords pathWords ts ||
    (atWord "try" ts && second (atMarks ["!", "::"]) ts)

variable (g : Phrases)

namespace Expression

/-- A literal; a text keeps its value. -/
def ofLiteral : Scan Expression := do
  match ← rest with
  | .literal (.text value) _ :: _ => return { tokens := ← literal, shape := .text value }
  | _ => return { tokens := ← literal }

def closureArgument : Phrase := do
  let attributes ← outerAttributes g
  let found ← g.pattern
  if ← sees (atMark ":") then
    return attributes ++ found.tokens ++ (← inOrder [mark ":", g.typeTokens true])
  else if found.loose then return found.tokens
  else return attributes ++ found.tokens

def closure (records : Bool) : Phrase := do
  let start ← inOrder
    [optionalBinder g, optionalWord "const", optionalWord "static", optionalWord "async",
     optionalWord "move", mark "|", separatedUntil (atMark "|") "," (closureArgument g), mark "|"]
  let body ←
    if ← sees (atMark "->") then inOrder [mark "->", g.typeTokens true, block g]
    else do pure (← g.expression records).tokens
  return start ++ body

/-- A construct of the implementation, which is kept as it stands. -/
def builtin : Phrase :=
  inOrder [word "builtin", mark "#", name, group .parenthesis everything]

/-- The value of a field of a record; a field may stand for a variable of its name. -/
def fieldValue : Phrase := do
  let attributes ← outerAttributes g
  let (field, named) ← member
  let value ←
    if !named || (← sees (atMark ":")) then inOrder [mark ":", g.expressionTokens] else pure []
  return attributes ++ field ++ value

/-- The fields of a record; after two points, the record that has all others. -/
def recordFields : Phrase :=
  repeated (fun read => do
    let ts ← rest
    if ts.isEmpty then return .done read
    else if atMark ".." ts then
      let points ← mark ".."
      return .done (read ++ points ++ (← whenSeen (fun ts => !ts.isEmpty) g.expressionTokens))
    else
      let read := read ++ (← fieldValue g)
      if ← atEnd then return .done read else return .yield (read ++ (← mark ","))) []

/-- A path, and what makes it an invocation or a record. -/
def ofPath (records : Bool) : Scan Expression := do
  let (p, qualified) ← pathInExpression g
  let ts ← rest
  if !qualified && p.plain && atBang ts then
    let bang ← mark "!"
    let braces ← sees (atGroup .brace)
    return { tokens := p.tokens ++ bang ++ (← anyGroup), shape := .invocation braces }
  else if records && atGroup .brace ts then
    return { tokens := p.tokens ++ (← group .brace (recordFields g)) }
  else return { tokens := p.tokens }

/-- The elements of an array, or one of them and a length. -/
def arrayElements : Phrase := do
  if ← atEnd then return []
  else
    let first ← g.expressionTokens
    let ts ← rest
    if ts.isEmpty then return first
    else if atMark "," ts then return first ++ (← mark ",") ++ (← list g)
    else if atMark ";" ts then return first ++ (← mark ";") ++ (← g.expressionTokens)
    else expected ["`,` or `;`"]

def optionalValue : Phrase :=
  whenSeen atExpression g.expressionTokens

/-- A jump out of a loop or a block. A label with a colon would name what follows, not where to
go. -/
def ofBreak (records : Bool) : Phrase := do
  let start ← word "break"
  if ← sees fun ts => atLifetime ts && second (atMark ":") ts then
    discard (g.expression true)
    refuse .bareLabel
  else
    let label ← whenSeen atLifetime lifetime
    let value ←
      whenSeen (fun ts => atExpression ts && (records || !atGroup .brace ts)) g.expressionTokens
    return start ++ label ++ value

def ofLet (records : Bool) : Phrase := do
  let start ← inOrder [word "let", Pattern.alternativesTokens g, mark "="]
  let value ← g.operation records .comparison (← g.operand records)
  return start ++ value.tokens

def ofIf : Phrase :=
  repeated (fun read => do
    let read := read ++ (← inOrder [word "if", g.condition, block g])
    if ← sees (atWord "else") then
      let read := read ++ (← word "else")
      let ts ← rest
      if atWord "if" ts then return .yield read
      else if atGroup .brace ts then return .done (read ++ (← block g))
      else expected ["`if`", "curly braces"]
    else return .done read) []

def ofWhile : Phrase :=
  inOrder [word "while", g.condition, attributedBlock g]

def ofFor : Phrase :=
  inOrder [word "for", Pattern.alternativesTokens g, word "in", g.condition, attributedBlock g]

def ofLoop : Phrase :=
  inOrder [word "loop", attributedBlock g]

def labelled : Scan Expression := do
  let label ← inOrder [lifetime, mark ":"]
  let ts ← rest
  let body ←
    if atWord "while" ts then ofWhile g
    else if atWord "for" ts then ofFor g
    else if atWord "loop" ts then ofLoop g
    else if atGroup .brace ts then attributedBlock g
    else expected ["loop or block expression"]
  return { tokens := label ++ body, shape := .block }

/-- An arm of a case distinction. A comma is needed after an arm that is no block, unless it is
the last. -/
def arm : Phrase := do
  let start ← inOrder
    [outerAttributes g, Pattern.alternativesTokens g,
     whenSeen (atWord "if") (inOrder [word "if", g.expressionTokens]), mark "=>"]
  let body ← g.leading
  let comma ← if body.shape ≠ .block && !(← atEnd) then mark "," else optionalMark ","
  return start ++ body.tokens ++ comma

def ofMatch : Phrase :=
  inOrder [word "match", g.condition, group .brace (inOrder [innerAttributes g, toEnd (arm g)])]

/-- What is controlled by a condition or is a block, if it starts here. -/
def controlled? (ts : List Token) : Option Phrase :=
  if atWord "if" ts then some (ofIf g)
  else if atWord "while" ts then some (ofWhile g)
  else if atWord "for" ts && !atClosureBinder ts then some (ofFor g)
  else if atWord "loop" ts then some (ofLoop g)
  else if atWord "match" ts then some (ofMatch g)
  else if atTryBlock ts then some (inOrder [word "try", block g])
  else if atWord "unsafe" ts then some (inOrder [word "unsafe", attributedBlock g])
  else if atWord "const" ts && second (atGroup .brace) ts then some (constantBlock g)
  else if atGroup .brace ts then some (attributedBlock g)
  else none

def leading : Scan Expression := do
  let attributes ← outerAttributes g
  let ts ← rest
  let e ←
    match controlled? g ts with
    | some phrase => do pure { tokens := ← phrase, shape := .block }
    | none => if atLifetime ts then labelled g else g.operand true
  if e.shape ≠ .block then g.operation true .lowest (e.attributed attributes)
  else if ← sees fun ts => atPoint ts || atMark "?" ts then
    g.operation true .lowest ((← trailers g e).attributed attributes)
  else return e.attributed attributes

/-- An expression with nothing before or after it. -/
def atom (records : Bool) : Scan Expression := do
  let ts ← rest
  let plain := fun (phrase : Phrase) => do return ({ tokens := ← phrase } : Expression)
  let asItStands := fun (phrase : Phrase) => do
    return ({ tokens := ← verbatim phrase, shape := .verbatim, loose := true } : Expression)
  if atLiteral ts then ofLiteral
  else if atAsyncBlock ts then plain (inOrder [word "async", optionalWord "move", block g])
  else if atClosure ts then plain (closure g records)
  else if atWord "builtin" ts && second (atMark "#") ts then asItStands builtin
  else if atPath ts then ofPath g records
  else if atGroup .parenthesis ts then plain (group .parenthesis (list g))
  else if atWord "break" ts then plain (ofBreak g records)
  else if atWord "continue" ts then
    plain (inOrder [word "continue", whenSeen atLifetime lifetime])
  else if atWord "return" ts then plain (inOrder [word "return", optionalValue g])
  else if atWord "become" ts then asItStands (inOrder [word "become", g.expressionTokens])
  else if atGroup .bracket ts then plain (group .bracket (arrayElements g))
  else if atWord "let" ts then plain (ofLet g records)
  else if atWord "yield" ts then plain (inOrder [word "yield", optionalValue g])
  else if atMark ".." ts then rangeFrom g records []
  else if atWord "_" ts then plain (word "_")
  else if atLifetime ts then labelled g
  else
    match controlled? g ts with
    | some phrase => return { tokens := ← phrase, shape := .block }
    | none => expected ["an expression"]

end Expression

end Declaration

end Metrology
