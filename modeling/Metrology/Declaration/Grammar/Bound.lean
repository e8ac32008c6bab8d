import Metrology.Declaration.Grammar.Path

namespace Metrology

namespace Declaration

open Scan

def atBound (constants : Bool) (ts : List Token) : Bool :=
  atAnyWord ts || atMarks ["::", "?"] ts || atLifetime ts || atGroup .parenthesis ts ||
    (constants && atGroup .bracket ts)

variable (g : Phrases)

/-- The lifetimes that a bound or a closure is about. -/
def binder : Phrase := do
  let start ← inOrder [word "for", mark "<"]
  let names ← separatedUntil (atMark ">") "," (inOrder [outerAttributes g, lifetime])
  return start ++ names ++ (← mark ">")

def optionalBinder : Phrase :=
  whenSeen (atWord "for") (binder g)

def capture : Phrase := do
  let start ← inOrder [word "use", mark "<"]
  let items ←
    repeated (fun (read : List Listed) => do
      let ts ← rest
      if atLifetime ts || atName ts || atWord "Self" ts then
        let found ← if atLifetime ts then lifetime else anyWord
        let after ← rest
        if atMark "," after then return .yield (read ++ [⟨found, atLifetime ts, ← mark ","⟩])
        else if atMark ">" after then return .done (read ++ [⟨found, atLifetime ts, []⟩])
        else expected ["`,`", "`>`"]
      else if atMark ">" ts then return .done read
      else expected ["lifetime", "identifier", "`>`"]) []
  return start ++ Listed.lifetimesFirst items ++ (← mark ">")

/-- The mark of a bound about constants, which may be conditional. -/
def constness (constants : Bool) : Phrase := do
  let ts ← rest
  if atGroup .bracket ts then
    let found ← group .bracket (word "const")
    if constants then return found else refuse .conditionalConstant
  else if atWord "const" ts then
    let found ← word "const"
    if constants then return found else refuse .unconditionalConstant
  else return []

/-- A trait as a bound, and whether it is about constants, in which case it is kept as it
stands. -/
def traitBound (constants : Bool) : Scan (List Token × Bool) := do
  let outerBinder ← optionalBinder g
  let constant ← constness constants
  let polarity ← optionalMark "?"
  let innerBinder ← if outerBinder.isEmpty && !polarity.isEmpty then optionalBinder g else pure []
  let path ← Path.parse g false
  let path ← if path.bare && (← sees atCall) then do pure (← path.call g).1 else pure path
  if !polarity.isEmpty && !(outerBinder ++ innerBinder).isEmpty then refuse .binderWithPolarity
  else return (outerBinder ++ constant ++ polarity ++ innerBinder ++ path.tokens,
    !constant.isEmpty)

namespace Bound

def parse (captures constants : Bool) : Scan Bound := do
  let start ← rest
  if atLifetime start then return ⟨← lifetime, .lifetime⟩
  else if atWord "use" start then
    let found ← capture
    if captures then return ⟨found, .capture⟩ else refuse .captureNotAllowed
  else
    let (found, raw) ←
      if atGroup .parenthesis start then do
        let (inner, raw) ← within .parenthesis (traitBound g constants)
        pure ([.group .parenthesis inner], raw)
      else traitBound g constants
    if raw then return ⟨← since start, .verbatim⟩ else return ⟨found, .trait⟩

/-- Bounds with plus signs between them, if these are allowed; one may also stand at the end. -/
def sum (plus captures constants : Bool) : Scan (List Token × List BoundKind) :=
  repeated (fun (tokens, kinds) => do
    let found ← g.bound captures constants
    let tokens := tokens ++ found.tokens
    let kinds := kinds ++ [found.kind]
    if plus && (← sees (atMark "+")) then
      let tokens := tokens ++ (← mark "+")
      if ← sees (atBound constants) then return .yield (tokens, kinds)
      else return .done (tokens, kinds)
    else return .done (tokens, kinds)) ([], [])

def object (plus : Bool) : Phrase := do
  let (tokens, kinds) ← sum g plus false false
  if kinds.contains .trait then return tokens else refuse .objectWithoutTrait

/-- The bounds of a type that is only known by them. -/
def implemented (plus : Bool) : Phrase := do
  let (tokens, kinds) ← sum g plus true true
  if kinds.contains .trait || kinds.contains .verbatim then return tokens
  else refuse .nothingImplemented

end Bound

end Declaration

end Metrology
