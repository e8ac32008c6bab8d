import Metrology.Declaration.Grammar.Type

namespace Metrology

namespace Declaration

open Scan

/-- An index is less than `2 ^ 32`. -/
def largestIndex : Nat :=
  4294967295

/-- The token of an index, which is written in decimal. -/
def indexToken (value : Nat) : Token :=
  .literal (.integer value "") value.repr

def indexOf (negative : Bool) (value : Nat) (suffix : String) : Scan Token :=
  if suffix ≠ "" then refuse .suffixedInteger
  else if negative then refuse .negativeInteger
  else if largestIndex < value then refuse .largeInteger
  else return indexToken value

def index : Phrase := do
  match ← rest with
  | .literal (.integer value suffix) _ :: after =>
      advance after
      return [← indexOf false value suffix]
  | .mark _ _ :: .literal (.integer value suffix) _ :: after =>
      advance after
      return [← indexOf true value suffix]
  | _ => expected ["integer literal"]

/-- A field by its name or its index, and whether it is by its name. -/
def member : Scan (List Token × Bool) := do
  let ts ← rest
  if atName ts then return (← name, true)
  else if atInteger ts then return (← index, false)
  else expected ["identifier or integer"]

def patternStarts : List String :=
  ["identifier", "`::`", "`<`", "`_`", "literal", "`const`", "`ref`", "`mut`", "`&`",
   "parentheses", "square brackets", "`..`", "`const`"]

def rangeBoundStarts : List String :=
  ["literal", "identifier", "`::`", "`<`", "`self`", "`Self`", "`super`", "`crate`", "`const`"]

def atBar (ts : List Token) : Bool :=
  atMark "|" ts && !atMark "||" ts && !atMark "|=" ts

/-- The pattern starts with a path that is more than a name. -/
def atPathPattern (ts : List Token) : Bool :=
  (atName ts &&
    (second (atMarks ["::", "!", ".."]) ts || second (atGroup .brace) ts ||
      second (atGroup .parenthesis) ts)) ||
  (atWord "self" ts && second (atMark "::") ts) || atMarks ["::", "<"] ts ||
    atWords ["Self", "super", "crate"] ts

/-- The marks of a range, and whether its end belongs to it. -/
def rangeMarks : Scan (List Token × Bool) := do
  let ts ← rest
  if atMark "..=" ts then return (← mark "..=", true)
  else if atMark "..." ts then
    discard (mark "...")
    return ([.mark '.' true, .mark '.' true, .mark '=' false], true)
  else if atMark ".." ts then return (← mark "..", false)
  else expected ["`..`"]

variable (g : Phrases)

def constantBlock : Phrase :=
  inOrder [word "const", attributedBlock g]

/-- A path in an expression or a pattern, and whether it starts with a type in angle brackets. -/
def pathInExpression : Scan (Path × Bool) := do
  if ← sees (atMark "<") then return (← Path.qualified g true, true)
  else return (← Path.parse g true, false)

namespace Pattern

/-- A pattern, or several with bars between them; a bar may also stand at the start. -/
def alternatives : Scan Pattern := do
  let bar ← optionalMark "|"
  let first ← g.pattern
  let more ← many atBar (inOrder [mark "|", g.patternTokens])
  if bar.isEmpty && more.isEmpty then return first
  else return { tokens := bar ++ first.tokens ++ more }

def alternativesTokens : Phrase := do
  return (← alternatives g).tokens

/-- A bound of a range; an end may be missing before what ends the pattern. -/
def rangeBound : Phrase := do
  let ts ← rest
  if ts.isEmpty || atMarks ["|", "=", ",", ";"] ts || atColon ts || atWord "if" ts then return []
  else if atLiteral ts then literal
  else if atName ts || atMarks ["::", "<"] ts || atWords pathWords ts then
    return (← pathInExpression g).1.tokens
  else if atWord "const" ts then constantBlock g
  else expected rangeBoundStarts

def rangeAfter (start : List Token) : Scan Pattern := do
  let (marks, closed) ← rangeMarks
  let last ← rangeBound g
  if closed && last.isEmpty then expected ["range upper bound"]
  else return { tokens := start ++ marks ++ last, openRange := last.isEmpty }

def boundOrRange : Scan Pattern := do
  let start ← rangeBound g
  if ← sees (atMark "..") then rangeAfter g start else return { tokens := start }

/-- A range without a start, or what stands for any number of elements. -/
def rangeWithoutStart : Scan Pattern := do
  let (marks, closed) ← rangeMarks
  let last ← rangeBound g
  if !last.isEmpty then return { tokens := marks ++ last, openRange := true }
  else if closed then expected ["range upper bound"]
  else return { tokens := marks }

def shortField (start : List Token) : Phrase := do
  let boxed ← optionalWord "box"
  let modifiers ← inOrder [optionalWord "ref", optionalWord "mut"]
  let (field, named) ←
    if boxed.isEmpty && modifiers.isEmpty then member else do pure (← name, true)
  if (boxed.isEmpty && modifiers.isEmpty && (← sees (atMark ":"))) || !named then
    return field ++ (← mark ":") ++ (← alternativesTokens g)
  else if boxed.isEmpty then return modifiers ++ field
  else since start

/-- The fields of a record, of which the last may stand for all others. -/
def fields : Phrase :=
  repeated (fun read => do
    if ← atEnd then return .done read
    else
      let attributes ← outerAttributes g
      let ts ← rest
      if atMark ".." ts then return .done (read ++ attributes ++ (← mark ".."))
      else
        let read := read ++ attributes ++ (← shortField g ts)
        if ← atEnd then return .done read else return .yield (read ++ (← mark ","))) []

def elements : Phrase :=
  commaSeparated (alternativesTokens g)

/-- The elements of a slice. A range that is open at an end needs parentheses there. -/
def sliceElements : Phrase :=
  commaSeparated do
    let found ← alternatives g
    if found.openRange then refuse .openRangeInSlice else return found.tokens

def ofPath : Scan Pattern := do
  let (p, qualified) ← pathInExpression g
  let ts ← rest
  if !qualified && atBang ts && p.plain then
    return { tokens := p.tokens ++ (← inOrder [mark "!", anyGroup]) }
  else if atGroup .brace ts then return { tokens := p.tokens ++ (← group .brace (fields g)) }
  else if atGroup .parenthesis ts then
    return { tokens := p.tokens ++ (← group .parenthesis (elements g)) }
  else if atMark ".." ts then rangeAfter g p.tokens
  else return { tokens := p.tokens }

/-- A name for what is matched, perhaps with a pattern for it. -/
def binding : Phrase := do
  let modifiers ← inOrder [optionalWord "ref", optionalWord "mut"]
  let found ← nameOr ["self"]
  let more ← whenSeen (atMark "@") (inOrder [mark "@", g.patternTokens])
  return modifiers ++ found ++ more

def parse : Scan Pattern := do
  let ts ← rest
  if atPathPattern ts then ofPath g
  else if atWord "_" ts then return { tokens := ← word "_" }
  else if atWord "box" ts then
    return { tokens := ← verbatim (inOrder [word "box", g.patternTokens]), loose := true }
  else if atMark "-" ts || atLiteral ts || atWord "const" ts then boundOrRange g
  else if atWords ["ref", "mut", "self"] ts || atName ts then return { tokens := ← binding g }
  else if atMark "&" ts then
    return { tokens := ← inOrder [mark "&", optionalWord "mut", g.patternTokens] }
  else if atGroup .parenthesis ts then return { tokens := ← group .parenthesis (elements g) }
  else if atGroup .bracket ts then return { tokens := ← group .bracket (sliceElements g) }
  else if atMark "..." ts then expected (patternStarts.erase "`..`")
  else if atMark ".." ts then rangeWithoutStart g
  else expected patternStarts

end Pattern

end Declaration

end Metrology
