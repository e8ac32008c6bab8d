import Metrology.Declaration.Grammar.Member

namespace Metrology

namespace Declaration

open Scan

variable (g : Phrases)

def useTree (rooted : Bool) : Phrase := do
  let ts ← rest
  if atName ts || atWords ["self", "super", "crate", "try"] ts then
    let start ← anyWord
    let ts ← rest
    if atMark "::" ts then return start ++ (← mark "::") ++ (← g.useTree false)
    else if atWord "as" ts then
      let keyword ← word "as"
      if ← sees fun ts => atName ts || atWord "_" ts then return start ++ keyword ++ (← anyWord)
      else expected ["identifier or underscore"]
    else return start
  else if atMark "*" ts then mark "*"
  else if atGroup .brace ts then
    group .brace (commaSeparated do
      let root ← if rooted then optionalMark "::" else pure []
      return root ++ (← g.useTree (rooted && root.isEmpty)))
  else expected ["identifier", "`self`", "`super`", "`crate`", "`try`", "`*`", "curly braces"]

namespace Item

def externalPackage : Phrase :=
  inOrder
    [visibility, word "extern", word "crate", nameOr ["self"],
     whenSeen (atWord "as") (inOrder [word "as", nameOr ["_"]]), mark ";"]

def foreignModule : Phrase :=
  inOrder
    [optionalWord "unsafe", callingConvention,
     group .brace (inOrder [innerAttributes g, toEnd (Member.ofForeign g)])]

def use : Phrase := do
  let start ← inOrder [visibility, word "use"]
  let root ← optionalMark "::"
  return start ++ root ++ (← g.useTree root.isEmpty) ++ (← mark ";")

/-- A variable of the program; without a type or a value it is kept as it stands, which is how it
is written anyway. -/
def static : Phrase := do
  let head ← inOrder [visibility, word "static", optionalWord "mut", name]
  if ← sees (atMark "=") then return head ++ (← inOrder [mark "=", g.expressionTokens, mark ";"])
  else
    let type ← inOrder [mark ":", g.typeTokens true]
    if ← sees (atMark ";") then return head ++ type ++ (← mark ";")
    else return head ++ type ++ (← inOrder [mark "=", g.expressionTokens, mark ";"])

def module : Phrase := do
  let start ← inOrder [visibility, optionalWord "unsafe", word "mod", nameOr ["try"]]
  let ts ← rest
  if atMark ";" ts then return start ++ (← mark ";")
  else if atGroup .brace ts then
    return start ++ (← group .brace (inOrder [innerAttributes g, toEnd g.item]))
  else expected ["`;`", "curly braces"]

def traitBody : Phrase := do
  let ends := fun ts => atWord "where" ts || atGroup .brace ts
  let bounds ← afterColon (separatedUntil ends "+" g.boundTokens)
  return bounds ++ (← inOrder
    [conditions g, group .brace (inOrder [innerAttributes g, toEnd (Member.ofTrait g)])])

def trait : Phrase :=
  inOrder
    [visibility, optionalWord "unsafe", optionalWord "auto", word "trait", name, parameters g,
      traitBody g]

def traitOrAlias : Phrase := do
  let start ← inOrder [visibility, word "trait", name, parameters g]
  let ts ← rest
  if atGroup .brace ts || atMark ":" ts || atWord "where" ts then return start ++ (← traitBody g)
  else if atMark "=" ts then
    let ends := fun ts => atWord "where" ts || atMark ";" ts
    return start ++
      (← inOrder [mark "=", separatedUntil ends "+" g.boundTokens, conditions g, mark ";"])
  else expected ["curly braces", "`:`", "`where`", "`=`"]

/-- An implementation, and whether it is kept as it stands. -/
def implementation : Scan (List Token × Bool) := do
  let restriction ← visibility
  let start ← inOrder [optionalWord "default", optionalWord "unsafe", word "impl"]
  let listed ← if ← sees atParameters then parameters g else pure []
  let constant ←
    whenSeen (fun ts => atWord "const" ts || (atMark "?" ts && second (atWord "const") ts))
      (inOrder [optionalMark "?", word "const"])
  let negation ← whenSeen (fun ts => atMark "!" ts && !second (atGroup .brace) ts) (mark "!")
  let first ← g.type true
  let isTrait := first.shape = .segment || first.shape = .path
  let forType ← sees (atWord "for")
  let type ←
    if forType then inOrder [word "for", g.typeTokens true]
    else if !negation.isEmpty then refuse .negativeInherent
    else pure []
  let body ← inOrder
    [conditions g, group .brace (inOrder [innerAttributes g, toEnd (Member.ofImplementation g)])]
  return (restriction ++ start ++ listed ++ constant ++ negation ++ first.tokens ++ type ++ body,
    !restriction.isEmpty || !constant.isEmpty || (forType && !isTrait))

/-- The definition of an invocation, which is kept as it stands. -/
def invocationDefinition : Phrase := do
  let start ← inOrder [visibility, word "macro", name]
  let arguments ← whenSeen (atGroup .parenthesis) anyGroup
  if ← sees (atGroup .brace) then return start ++ arguments ++ (← anyGroup)
  else expected (if arguments.isEmpty then ["parentheses", "curly braces"] else ["curly braces"])

def starts (ts : List Token) : List String :=
  ["`fn`", "`extern`", "`use`", "`static`", "`const`", "`unsafe`", "`mod`", "`type`", "`struct`",
    "`enum`"] ++
    (if atWord "union" ts then [] else ["`union`"]) ++ ["`trait`"] ++
    (if atWord "auto" ts then [] else ["`auto`"]) ++ ["`impl`"] ++
    (if atWord "default" ts then [] else ["`default`"]) ++ ["`macro`"]

/-- A phrase that is kept as it stands, from a point before it. -/
def keep (start : List Token) (phrase : Phrase) : Phrase := do
  discard phrase
  since start

/-- What follows the word for what is not checked. -/
def unchecked (start attributes behind : List Token) : Phrase := do
  if atWord "trait" behind || (atWord "auto" behind && second (atWord "trait") behind) then
    return attributes ++ (← trait g)
  else if atWord "impl" behind then
    let (found, raw) ← implementation g
    if raw then since start else return attributes ++ found
  else if atWord "extern" behind then return attributes ++ (← foreignModule g)
  else if atWord "mod" behind then return attributes ++ (← module g)
  else
    advance behind
    expected (["`trait`"] ++ (if atWord "auto" behind then [] else ["`auto`"]) ++
      ["`impl`", "`extern`", "`mod`"])

/-- What follows the word for what comes from outside. -/
def external (attributes behind : List Token) : Phrase := do
  if atWord "crate" behind then return attributes ++ (← externalPackage)
  else if atGroup .brace behind then return attributes ++ (← foreignModule g)
  else if atText behind then
    if second (atGroup .brace) behind then return attributes ++ (← foreignModule g)
    else
      advance behind.tail
      expected ["curly braces"]
  else
    advance behind
    expected ["`crate`", "curly braces", "string literal"]

/-- An item after its attributes; `start` are the tokens from the attributes on. -/
def afterAttributes (start attributes : List Token) : Phrase := do
  let (restriction, ts) ← afterVisibility
  if atFunction false ts then
    let head ← inOrder [visibility, signature g false]
    if ← sees (atMark ";") then keep start (mark ";")
    else return attributes ++ head ++ (← attributedBlock g)
  else if atWord "extern" ts then external g attributes ts.tail
  else if atWord "use" ts then return attributes ++ (← use g)
  else if atWord "static" ts then return attributes ++ (← static g)
  else if atWord "const" ts then
    let head ← inOrder [visibility, word "const"]
    let (found, valued, parametric) ← constantAfterKeyword g
    if valued && !parametric then return attributes ++ head ++ found else since start
  else if atWord "unsafe" ts then unchecked g start attributes ts.tail
  else if atWord "mod" ts then return attributes ++ (← module g)
  else if atWord "type" ts then
    let found ← typeDefinition g false .beforeEquals
    if found.defined && !found.bounded then return attributes ++ found.tokens else since start
  else if atWord "struct" ts then
    return attributes ++
      (← inOrder [visibility, word "struct", name, parameters g, structureBody g])
  else if atWord "enum" ts then
    return attributes ++
      (← inOrder [visibility, word "enum", name, parameters g, enumerationBody g])
  else if atWord "union" ts && second atName ts then
    return attributes ++ (← inOrder [visibility, word "union", name, parameters g, unionBody g])
  else if atWord "trait" ts then return attributes ++ (← traitOrAlias g)
  else if atWord "auto" ts && second (atWord "trait") ts then return attributes ++ (← trait g)
  else if atWord "impl" ts || (atWord "default" ts && !second (atMark "!") ts) then
    let (found, raw) ← implementation g
    if raw then since start else return attributes ++ found
  else if atWord "macro" ts then keep start invocationDefinition
  else if restriction.isEmpty && atInvocation ts then return attributes ++ (← itemInvocation)
  else
    advance ts
    expected (starts ts ++ if restriction.isEmpty then invocationStarts else [])

def parse : Phrase := do
  let start ← rest
  let attributes ← outerAttributes g
  afterAttributes g start attributes

end Item

end Declaration

end Metrology
