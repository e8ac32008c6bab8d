import Metrology.Declaration.Grammar.Precedence
import Metrology.Declaration.Scan

/-!
The phrases that other phrases contain. The grammar is written against a record of them, so that
each kind of phrase has a module of its own; the record is then filled by recursion on how deeply
phrases may be nested.

Of a phrase that has been read, what is kept are its tokens as they are written back, and what
decides which tokens may stand around it.
-/

namespace Metrology

namespace Declaration

/-- What an expression is, as far as its surroundings depend on it. -/
inductive Shape where
  | plain
  /-- It ends with its braces, and is a statement without a semicolon. -/
  | block
  | range
  | comparison
  /-- A name with an exclamation mark and a group, which may be in braces. -/
  | invocation (braces : Bool)
  | text (value : String)
  /-- It is kept as it stands. -/
  | verbatim
  deriving DecidableEq, Repr

structure Expression where
  tokens : List Token
  shape : Shape := .plain
  /-- Attributes before the expression are lost. -/
  loose : Bool := false

structure Pattern where
  tokens : List Token
  /-- A range without a start or without an end. -/
  openRange : Bool := false
  /-- Attributes before the pattern are lost. -/
  loose : Bool := false

inductive TypeShape where
  /-- A single name, perhaps with arguments in angle brackets. -/
  | segment
  | path
  /-- A sum of bounds; whether it has only one. -/
  | sum (single : Bool)
  | parenthesized
  | other
  deriving DecidableEq, Repr

structure TypeExpression where
  tokens : List Token
  shape : TypeShape := .other

inductive BoundKind where
  | trait
  | lifetime
  | capture
  | verbatim
  deriving DecidableEq, Repr

structure Bound where
  tokens : List Token
  kind : BoundKind

structure Phrases where
  /-- A type, with plus signs or without them. -/
  type (plus : Bool) : Scan TypeExpression
  /-- A bound, which may be a capture, or about constants. -/
  bound (captures constants : Bool) : Scan Bound
  /-- An expression. Where `records` is false, a brace after a path does not start the fields of a
  record. -/
  expression (records : Bool) : Scan Expression
  /-- An operand of operators, with what precedes and follows it. -/
  operand (records : Bool) : Scan Expression
  /-- The operators after an operand that bind at least as tightly as a precedence. -/
  operation (records : Bool) (least : Precedence) (left : Expression) : Scan Expression
  /-- An expression where a statement starts: if it starts with what ends in braces, it is over
  with them, unless a point or a question mark follows. -/
  leading : Scan Expression
  pattern : Scan Pattern
  fields : Phrase
  statements : Phrase
  item : Phrase
  /-- What a declaration of used names lists. Where `rooted` is true, it may start at the root. -/
  useTree (rooted : Bool) : Phrase

namespace Phrases

variable (g : Phrases)

def typeTokens (plus : Bool) : Phrase := do
  return (← g.type plus).tokens

def boundTokens : Phrase := do
  return (← g.bound false true).tokens

def expressionTokens : Phrase := do
  return (← g.expression true).tokens

/-- An expression before a brace. -/
def condition : Phrase := do
  return (← g.expression false).tokens

def patternTokens : Phrase := do
  return (← g.pattern).tokens

end Phrases

end Declaration

end Metrology
