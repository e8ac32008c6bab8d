import Metrology.Declaration.Grammar.Expression
import Metrology.Declaration.Grammar.Item

namespace Metrology

namespace Declaration

open Scan

def endsInBraces (ts : List Token) : Bool :=
  match ts.getLast? with
  | some t => atGroup .brace [t]
  | none => false

/-- A constant or a function, and not a closure or a block, follows. -/
def atConstantItem (ts : List Token) : Bool :=
  atWord "const" ts &&
    !(second (atGroup .brace) ts || second (atWords ["static", "move"]) ts ||
      second (atMark "|") ts ||
      (second (atWord "async") ts && !third (atWords ["unsafe", "extern", "fn"]) ts))

/-- A variable of the program, and not a closure, follows. -/
def atStaticItem (ts : List Token) : Bool :=
  atWord "static" ts && (second (atWord "mut") ts || second atName ts)

def atItem (ts : List Token) : Bool :=
  atWords ["pub", "extern", "use", "fn", "mod", "type", "struct", "enum", "trait", "impl",
    "macro"] ts ||
    (atWord "crate" ts && !second (atMark "::") ts) || atStaticItem ts || atConstantItem ts ||
    (atWord "unsafe" ts && !second (atGroup .brace) ts) ||
    (atWord "async" ts && second (atWords ["unsafe", "extern", "fn"]) ts) ||
    (atWord "union" ts && second atName ts) || (atWord "auto" ts && second (atWord "trait") ts) ||
    (atWord "default" ts && second (atWords ["unsafe", "impl"]) ts)

/-- An invocation in braces that is a statement: nothing goes on with its value. -/
def atStatementGroup (ts : List Token) : Bool :=
  atMark "!" ts && second (atGroup .brace) ts && !(third atPoint ts || third (atMark "?") ts)

def atNamedGroup (ts : List Token) : Bool :=
  atMark "!" ts && (second atName ts || second (atWord "try") ts)

variable (g : Phrases)

namespace Statement

/-- A binding, with a block for when its pattern does not match. -/
def ofLet : Phrase := do
  let start ← inOrder
    [word "let", g.patternTokens, whenSeen (atMark ":") (inOrder [mark ":", g.typeTokens true])]
  let value ← whenSeen (atMark "=") do
    let equals ← mark "="
    let value ← g.expressionTokens
    let otherwise ←
      if endsInBraces value then pure []
      else whenSeen (atWord "else") (inOrder [word "else", block g])
    return equals ++ value ++ otherwise
  return start ++ value ++ (← mark ";")

/-- An expression as a statement, and whether it lacks a semicolon before another statement. -/
def ofExpression (attributes : List Token) : Scan (List Token × Bool) := do
  let e := (← g.leading).attributed attributes
  let semicolon ← optionalMark ";"
  let lacking :=
    match e.shape with
    | .block => false
    | .invocation braces => !braces
    | _ => true
  return (e.tokens ++ semicolon, semicolon.isEmpty && lacking)

def parse : Scan (List Token × Bool) := do
  let start ← rest
  let attributes ← outerAttributes g
  let ts ← rest
  let behind ← peek do
    match ← attempt modulePath with
    | some _ => rest
    | none => return []
  if atStatementGroup behind then
    return (attributes ++ (← inOrder [modulePath, mark "!", anyGroup, optionalMark ";"]), false)
  else if atWord "let" ts then return (attributes ++ (← ofLet g), false)
  else if atItem ts || atNamedGroup behind then
    return (← Item.afterAttributes g start attributes, false)
  else ofExpression g attributes

end Statement

/-- The statements of a block. The last one may be without a semicolon. -/
def statements : Phrase :=
  repeated (fun read => do
    let read := read ++ (← many (atMark ";") (mark ";"))
    if ← atEnd then return .done read
    else
      let (found, lacking) ← Statement.parse g
      let read := read ++ found
      if ← atEnd then return .done read
      else if lacking then refuse .missingSemicolon
      else return .yield read) []

end Declaration

end Metrology
