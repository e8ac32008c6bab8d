import Metrology.Declaration.Grammar

namespace Metrology

namespace Declaration

open Scan

structure TypeItem where
  attributes : List Attribute
  name : String

namespace TypeItem

variable (g : Phrases)

/-- What follows the keyword of an item with this kind of body: the name, which is kept, and the
parameters. -/
def afterKeyword (keyword : String) (body : Phrase) : Scan String := do
  discard (word keyword)
  let found ← Scan.name
  discard (parameters g)
  discard body
  return Token.textAll found

def scan : Scan TypeItem := do
  let attributes ← Attribute.before g
  discard visibility
  let ts ← rest
  let name ←
    if atWord "struct" ts then afterKeyword g "struct" (structureBody g)
    else if atWord "enum" ts then afterKeyword g "enum" (enumerationBody g)
    else if atWord "union" ts then afterKeyword g "union" (unionBody g)
    else expected ["`struct`", "`enum`", "`union`"]
  return ⟨attributes, name⟩

def parse (ts : List Token) : Except SyntaxError TypeItem :=
  (scan (Phrases.covering ts)).complete ts

end TypeItem

end Declaration

end Metrology
