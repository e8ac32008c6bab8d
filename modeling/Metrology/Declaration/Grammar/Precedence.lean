import Metrology.Declaration.Ahead

namespace Metrology

namespace Declaration

inductive Precedence where
  | lowest
  | assignment
  | range
  | disjunction
  | conjunction
  | comparison
  | bitOr
  | bitXor
  | bitAnd
  | shift
  | sum
  | product
  | cast
  deriving DecidableEq, Repr

namespace Precedence

def rank : Precedence → Nat
  | .lowest => 0
  | .assignment => 1
  | .range => 2
  | .disjunction => 3
  | .conjunction => 4
  | .comparison => 5
  | .bitOr => 6
  | .bitXor => 7
  | .bitAnd => 8
  | .shift => 9
  | .sum => 10
  | .product => 11
  | .cast => 12

/-- The first binds at least as tightly as the second. -/
def atLeast (p q : Precedence) : Bool :=
  q.rank ≤ p.rank

end Precedence

/-- The operators, of which the first that fits is taken. -/
def operatorTable : List (String × Precedence) :=
  [("+=", .assignment), ("-=", .assignment), ("*=", .assignment), ("/=", .assignment),
   ("%=", .assignment), ("^=", .assignment), ("&=", .assignment), ("|=", .assignment),
   ("<<=", .assignment), (">>=", .assignment), ("&&", .conjunction), ("||", .disjunction),
   ("<<", .shift), (">>", .shift), ("==", .comparison), ("<=", .comparison), ("!=", .comparison),
   (">=", .comparison), ("+", .sum), ("-", .sum), ("*", .product), ("/", .product),
   ("%", .product), ("^", .bitXor), ("&", .bitAnd), ("|", .bitOr), ("<", .comparison),
   (">", .comparison)]

def operator? (ts : List Token) : Option (String × Precedence) :=
  operatorTable.find? fun (spelling, _) => atMark spelling ts

def atAssignment (ts : List Token) : Bool :=
  atMark "=" ts && !atMark "==" ts && !atMark "=>" ts

/-- The precedence of what continues an operand. -/
def precedenceAhead (ts : List Token) : Precedence :=
  match operator? ts with
  | some (_, p) => p
  | none =>
      if atMark "=" ts && !atMark "=>" ts then .assignment
      else if atMark ".." ts then .range
      else if atWord "as" ts then .cast
      else .lowest

end Declaration

end Metrology
