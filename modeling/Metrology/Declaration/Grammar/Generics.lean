import Metrology.Declaration.Grammar.Type

namespace Metrology

namespace Declaration

open Scan

def atConditionsEnd (ts : List Token) : Bool :=
  ts.isEmpty || atGroup .brace ts || atMarks [",", ";", "="] ts || atColon ts

/-- A colon and what follows it; without anything after it, the colon is not written. -/
def afterColon (phrase : Phrase) : Phrase := do
  if ← sees (atMark ":") then
    let colon ← mark ":"
    let found ← phrase
    return if found.isEmpty then [] else colon ++ found
  else return []

variable (g : Phrases)

namespace Parameter

def ofLifetime : Phrase := do
  let start ← lifetime
  return start ++ (← afterColon (separatedWhile (atMarks [",", ">"]) "+" lifetime))

def ofType : Phrase := do
  let start ← name
  let bounds ← afterColon (separatedWhile (atMarks [",", ">", "="]) "+" g.boundTokens)
  let value ← whenSeen (atMark "=") (inOrder [mark "=", g.typeTokens true])
  return start ++ bounds ++ value

def ofConstant : Phrase := do
  let start ← inOrder [word "const", name, mark ":", g.typeTokens true]
  return start ++ (← whenSeen (atMark "=") (inOrder [mark "=", constantArgument g]))

def parse : Scan Listed := do
  let attributes ← outerAttributes g
  let ts ← rest
  if atLifetime ts then return ⟨attributes ++ (← ofLifetime), true, []⟩
  else if atName ts then return ⟨attributes ++ (← ofType g), false, []⟩
  else if atWord "const" ts then return ⟨attributes ++ (← ofConstant g), false, []⟩
  else if atWord "_" ts then return ⟨attributes ++ (← anyWord), false, []⟩
  else expected ["lifetime", "identifier", "`const`"]

end Parameter

def parameters : Phrase := do
  if ← sees (atMark "<") then
    let (found, empty) ← Listed.inBrackets (Parameter.parse g)
    return if empty then [] else found
  else return []

def condition : Phrase := do
  let ts ← rest
  if atLifetime ts && second (atMark ":") ts then
    let start ← inOrder [lifetime, mark ":"]
    let ends := fun ts => ts.isEmpty || atGroup .brace ts || atMarks [",", ";", ":", "="] ts
    return start ++ (← separatedWhile ends "+" lifetime)
  else
    let start ← inOrder [optionalBinder g, g.typeTokens true, mark ":"]
    return start ++ (← separatedWhile atConditionsEnd "+" g.boundTokens)

def conditions : Phrase := do
  if ← sees (atWord "where") then
    let start ← word "where"
    if ← sees atParameters then refuse .parametersOfConditions
    else
      let found ← separatedWhile atConditionsEnd "," (condition g)
      return if found.isEmpty then [] else start ++ found
  else return []

end Declaration

end Metrology
