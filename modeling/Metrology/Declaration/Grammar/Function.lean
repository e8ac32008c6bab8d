import Metrology.Declaration.Grammar.Pattern
import Metrology.Declaration.Grammar.Record

namespace Metrology

namespace Declaration

open Scan

/-- The tokens after a word that may be missing. -/
def afterWord (text : String) (ts : List Token) : List Token :=
  if atWord text ts then ts.tail else ts

/-- A function follows; outside a block it may be called safe. -/
def atFunction (safe : Bool) (ts : List Token) : Bool :=
  let ts := afterWord "async" (afterWord "const" ts)
  let ts := if safe && atWord "safe" ts then ts.tail else afterWord "unsafe" ts
  let ts := if atWord "extern" ts then (if atText ts.tail then ts.tail.tail else ts.tail) else ts
  atWord "fn" ts

variable (g : Phrases)

def receiver : Phrase := do
  let reference ← whenSeen (atMark "&") (inOrder [mark "&", whenSeen atLifetime lifetime])
  let start ← inOrder [optionalWord "mut", word "self"]
  let type ←
    if reference.isEmpty then whenSeen (atMark ":") (inOrder [mark ":", g.typeTokens true])
    else pure []
  return reference ++ start ++ type

inductive ArgumentKind where
  | receiver
  | typed
  | variadic
  deriving DecidableEq, Repr

/-- An argument of a function. A type with arguments may stand alone, and is written with a
pattern for anything. -/
def functionArgument : Scan (List Token × ArgumentKind) := do
  match ← attempt (receiver g) with
  | some found => return (found, .receiver)
  | none =>
      if ← sees fun ts => atName ts && second (atMark "<") ts then
        return ([.word false "_", .mark ':' false] ++ (← g.typeTokens true), .typed)
      else
        let start ← inOrder [g.patternTokens, mark ":"]
        if ← sees (atMark "...") then return (start ++ (← mark "..."), .variadic)
        else return (start ++ (← g.typeTokens true), .typed)

/-- The arguments of a function. Only the first can be the object of a method, and the last may
stand for any number. -/
def functionArguments : Phrase := do
  let (read, _) ←
    repeated (fun (read, kinds) => do
      if ← atEnd then return .done (read, kinds)
      else
        let read := read ++ (← outerAttributes g)
        let (found, kind) ←
          if ← sees (atMark "...") then do pure (← mark "...", ArgumentKind.variadic)
          else functionArgument g
        if kind = .receiver && kinds.contains .receiver then refuse .secondReceiver
        else if kind = .receiver && !kinds.isEmpty then refuse .lateReceiver
        else
          let read := read ++ found
          if ← atEnd then return .done (read, kinds)
          else
            let read := read ++ (← mark ",")
            if kind = .variadic then return .done (read, kinds)
            else return .yield (read, kinds ++ [kind])) ([], [])
  return read

def signature (safe : Bool) : Phrase := do
  let start ← inOrder [optionalWord "const", optionalWord "async", optionalWord "unsafe"]
  let safety ←
    if safe && !(start.any fun t => atWord "unsafe" [t]) then optionalWord "safe" else pure []
  let head ← inOrder
    [optionalConvention, word "fn", name, parameters g, group .parenthesis (functionArguments g)]
  return start ++ safety ++ head ++ (← returnType g true).1 ++ (← conditions g)

end Declaration

end Metrology
