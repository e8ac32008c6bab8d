import Metrology.Declaration.Grammar.Definition

namespace Metrology

namespace Declaration

open Scan

def afterVisibility : Scan (List Token × List Token) :=
  peek do return (← visibility, ← rest)

variable (g : Phrases)

namespace Member

/-- The error where no member starts. `others` are the starts that were tried besides those of an
invocation. -/
def missing (others : List String) (invocations : Bool) : Phrase :=
  expected (others ++ if invocations then invocationStarts else [])

/-- A member of a trait. One with a visibility or a default is kept as it stands. -/
def ofTrait : Phrase := do
  let start ← rest
  let attributes ← outerAttributes g
  let marked ← inOrder [visibility, optionalWord "default"]
  let ts ← rest
  let function := do
    let head ← signature g false
    let ts ← rest
    if atGroup .brace ts then return head ++ (← attributedBlock g)
    else if atMark ";" ts then return head ++ (← mark ";")
    else expected ["curly braces", "`;`"]
  let (found, raw) ←
    if atFunction false ts then do pure (← function, false)
    else if atWord "const" ts then do
      if second (fun ts => atName ts || atWord "_" ts) ts then
        let keyword ← word "const"
        let (found, _, parametric) ← constantAfterKeyword g
        pure (keyword ++ found, parametric)
      else if second (atWords ["async", "unsafe", "extern", "fn"]) ts then
        pure (← function, false)
      else
        advance ts.tail
        expected ["identifier", "`_`", "`async`", "`unsafe`", "`extern`", "`fn`"]
    else if atWord "type" ts then do pure ((← typeDefinition g false .afterEquals).tokens, false)
    else if marked.isEmpty && atInvocation ts then do pure (← invocation, false)
    else missing ["`fn`", "`const`", "`type`"] marked.isEmpty >>= fun found => pure (found, false)
  if raw || !marked.isEmpty then since start else return attributes ++ found

/-- A member of an implementation. A function without a body, a constant without a value and a
type without a definition are kept as they stand. -/
def ofImplementation : Phrase := do
  let start ← rest
  let attributes ← outerAttributes g
  let (restriction, ts) ← afterVisibility
  let defaulted := atWord "default" ts && !second (atMark "!") ts
  let behind := if defaulted then ts.tail else ts
  if atFunction false behind then
    let head ← inOrder [visibility, optionalWord "default", signature g false]
    if ← sees (atMark ";") then
      discard (mark ";")
      since start
    else return attributes ++ head ++ (← attributedBlock g)
  else if atWord "const" behind then
    let head ← inOrder [visibility, if defaulted then word "default" else pure [], word "const"]
    let (found, valued, parametric) ← constantAfterKeyword g
    if valued && !parametric then return attributes ++ head ++ found else since start
  else if atWord "type" behind then
    let found ← typeDefinition g true .afterEquals
    if found.defined && !found.bounded then return attributes ++ found.tokens else since start
  else if restriction.isEmpty && !defaulted && atInvocation behind then
    return attributes ++ (← invocation)
  else
    advance behind
    missing ((if atWord "default" ts then [] else ["`default`"]) ++ ["`fn`", "`const`", "`type`"])
      (restriction.isEmpty && !defaulted)

def ofForeign : Phrase := do
  let start ← rest
  let attributes ← outerAttributes g
  let (restriction, ts) ← afterVisibility
  if atFunction true ts then
    let head ← inOrder [visibility, signature g true]
    let safe := head.any fun t => atWord "safe" [t]
    if ← sees (atGroup .brace) then
      discard (attributedBlock g)
      since start
    else
      let semicolon ← mark ";"
      if safe then since start else return attributes ++ head ++ semicolon
  else if atWord "static" ts ||
      (atWords ["unsafe", "safe"] ts && second (atWord "static") ts) then
    let head ← visibility
    let safety ← inOrder [optionalWord "unsafe", optionalWord "safe"]
    let found ← inOrder [word "static", optionalWord "mut", name, mark ":", g.typeTokens true]
    let value ← whenSeen (atMark "=") (inOrder [mark "=", g.expressionTokens])
    let semicolon ← mark ";"
    if safety.isEmpty && value.isEmpty then return attributes ++ head ++ found ++ semicolon
    else since start
  else if atWord "type" ts then
    let found ← typeDefinition g false .both
    if found.bounded || found.defined then since start else return attributes ++ found.tokens
  else if restriction.isEmpty && atInvocation ts then return attributes ++ (← invocation)
  else
    advance ts
    missing ["`fn`", "`static`", "`type`"] restriction.isEmpty

end Member

end Declaration

end Metrology
