import Metrology.Declaration.Grammar.Statement

/-!
The grammar as a whole. Each kind of phrase refers to the others through the record of phrases,
and this record is filled by recursion on the depth to which phrases may be nested. A token is
reached through few nested phrases, so a depth that grows with the number of tokens is enough for
all of them.
-/

namespace Metrology

namespace Declaration

namespace Phrases

def nothing : Phrases where
  type _ := throw .tooDeep
  bound _ _ := throw .tooDeep
  expression _ := throw .tooDeep
  operand _ := throw .tooDeep
  operation _ _ _ := throw .tooDeep
  leading := throw .tooDeep
  pattern := throw .tooDeep
  fields := throw .tooDeep
  statements := throw .tooDeep
  item := throw .tooDeep
  useTree _ := throw .tooDeep

def extended (g : Phrases) : Phrases where
  type plus := TypeExpression.parse g plus
  bound captures constants := Bound.parse g captures constants
  expression records := do g.operation records .lowest (← g.operand records)
  operand records := Expression.operand g (Expression.atom g records) records
  operation records least left := Expression.operation g records least left
  leading := Expression.leading g
  pattern := Pattern.parse g
  fields := namedFields g
  statements := Declaration.statements g
  item := Item.parse g
  useTree rooted := Declaration.useTree g rooted

/-- The phrases that are nested at most `depth` times. -/
def ofDepth : (depth : Nat) → Phrases
  | 0 => nothing
  | depth + 1 => extended (ofDepth depth)

/-- The phrases that a list of tokens can hold. -/
def covering (ts : List Token) : Phrases :=
  ofDepth (8 * (Token.weightAll ts + 1))

end Phrases

/-- The tokens form one type; if so, as it is written back. -/
def typeOf? (ts : List Token) : Option (List Token) :=
  match ((Phrases.covering ts).typeTokens true).complete ts with
  | .ok found => some found
  | .error _ => none

end Declaration

end Metrology
