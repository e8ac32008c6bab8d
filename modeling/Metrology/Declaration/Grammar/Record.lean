import Metrology.Declaration.Grammar.Generics

namespace Metrology

namespace Declaration

open Scan

/-- The visibility of an item, which may be restricted to a module in parentheses. Other
parentheses belong to what follows. -/
def visibility : Phrase := do
  if ← sees (atWord "pub") then
    let start ← word "pub"
    match ← rest with
    | .group .parenthesis [.word false name] :: _ =>
        if ["crate", "self", "super"].contains name then return start ++ (← anyGroup)
        else return start
    | .group .parenthesis (.word false "in" :: _) :: _ =>
        return start ++ (← group .parenthesis (inOrder [word "in", modulePath]))
    | _ => return start
  else return []

variable (g : Phrases)

/-- A field with a name; a field without one may be a record in place. -/
def namedField : Phrase := do
  let start ← inOrder [outerAttributes g, visibility]
  let unnamed ← sees (atWord "_")
  let label ← inOrder [nameOr ["_"], mark ":"]
  let ts ← rest
  let type ←
    if unnamed && (atWord "struct" ts || (atWord "union" ts && second (atGroup .brace) ts)) then
      verbatim (inOrder [anyWord, g.fields])
    else g.typeTokens true
  return start ++ label ++ type

def namedFields : Phrase :=
  group .brace (commaSeparated (namedField g))

def unnamedFields : Phrase :=
  group .parenthesis (commaSeparated (inOrder [outerAttributes g, visibility, g.typeTokens true]))

def variant : Phrase := do
  let attributes ← outerAttributes g
  discard visibility
  let label ← name
  let ts ← rest
  let content ←
    if atGroup .brace ts then namedFields g
    else if atGroup .parenthesis ts then unnamedFields g
    else pure []
  return attributes ++ label ++ content ++
    (← whenSeen (atMark "=") (inOrder [mark "=", g.expressionTokens]))

def structureEnd : Phrase := do
  let conditioned ← sees (atWord "where")
  let found ← conditions g
  if ← sees (atMark ";") then return found ++ (← mark ";")
  else expected (if conditioned then ["`;`"] else ["`where`", "`;`"])

def structureBody : Phrase := do
  let conditioned ← sees (atWord "where")
  let found ← conditions g
  let ts ← rest
  if !conditioned && atGroup .parenthesis ts then return (← unnamedFields g) ++ (← structureEnd g)
  else if atGroup .brace ts then return found ++ (← namedFields g)
  else if atMark ";" ts then return found ++ (← mark ";")
  else
    expected
      ((if conditioned then [] else ["`where`", "parentheses"]) ++ ["curly braces", "`;`"])

def enumerationBody : Phrase :=
  inOrder [conditions g, group .brace (commaSeparated (variant g))]

def unionBody : Phrase :=
  inOrder [conditions g, namedFields g]

end Declaration

end Metrology
