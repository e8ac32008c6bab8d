import Metrology.Declaration.Grammar.Phrases

namespace Metrology

namespace Declaration

open Scan

inductive AttributeContent where
  | nothing
  | value
  | arguments (inner : List Token)

structure Attribute where
  path : List Token
  content : AttributeContent
  tokens : List Token

def modulePath : Phrase := do
  let root ← optionalMark "::"
  let names ←
    repeated (fun read => do
      if ← sees fun ts => atName ts || atWords pathWords ts then
        let read := read ++ (← anyWord)
        if ← sees (atMark "::") then return .yield (read ++ (← mark "::")) else return .done read
      else if read.isEmpty then return .done (← name)
      else expected ["path segment after `::`"]) []
  return root ++ names

namespace Attribute

/-- The path is this single word. -/
def isCalled (a : Attribute) (text : String) : Bool :=
  match a.path with
  | [.word false name] => name == text
  | _ => false

variable (g : Phrases)

/-- The value after an equals sign: a literal, or any expression without attributes of its own. -/
def value : Phrase := do
  let source ← get
  let found ← if ← sees atLiteral then literal else pure []
  if !found.isEmpty && (← atEnd) then return found
  else
    set source
    if atMark "#" source.tokens && second (atGroup .bracket) source.tokens then
      refuse .nestedAttribute
    else g.expressionTokens

def body : Scan Attribute := do
  let path ← if ← sees (atWord "unsafe") then word "unsafe" else modulePath
  match ← rest with
  | .group _ inner :: _ =>
      let arguments ← anyGroup
      return ⟨path, .arguments inner, path ++ arguments⟩
  | ts =>
      if atMark "=" ts then
        let equals ← mark "="
        return ⟨path, .value, path ++ equals ++ (← value g)⟩
      else return ⟨path, .nothing, path⟩

def outer : Scan Attribute := do
  let hash ← mark "#"
  let found ← within .bracket (body g)
  return { found with tokens := hash ++ [.group .bracket found.tokens] }

def before : Scan (List Attribute) :=
  repeated (fun read => do
    if ← sees (atMark "#") then return .yield (read ++ [← outer g]) else return .done read) []

end Attribute

variable (g : Phrases)

def outerAttributes : Phrase := do
  return ((← Attribute.before g).map Attribute.tokens).flatten

def innerAttributes : Phrase :=
  many (fun ts => atMark "#" ts && second (atMark "!") ts) do
    let start ← inOrder [mark "#", mark "!"]
    let found ← within .bracket (Attribute.body g)
    return start ++ [.group .bracket found.tokens]

def block : Phrase :=
  group .brace g.statements

def attributedBlock : Phrase :=
  group .brace (inOrder [innerAttributes g, g.statements])

end Declaration

end Metrology
