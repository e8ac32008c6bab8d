namespace Metrology

namespace Declaration

inductive Delimiter where
  | parenthesis
  | bracket
  | brace
  deriving DecidableEq, Repr

namespace Delimiter

def opening : Delimiter → Char
  | .parenthesis => '('
  | .bracket => '['
  | .brace => '\x7b'

def closing : Delimiter → Char
  | .parenthesis => ')'
  | .bracket => ']'
  | .brace => '\x7d'

def all : List Delimiter :=
  [.parenthesis, .bracket, .brace]

def title : Delimiter → String
  | .parenthesis => "parentheses"
  | .bracket => "square brackets"
  | .brace => "curly braces"

end Delimiter

inductive LiteralKind where
  | text (value : String)
  | integer (value : Nat) (suffix : String)
  | float
  /-- Characters, bytes, and texts of other kinds. -/
  | other
  deriving DecidableEq, Repr

inductive Token where
  /-- A word; a raw one is marked, so that it is no keyword. -/
  | word (raw : Bool) (name : String)
  /-- A word after a quote: the name of a lifetime or of a label. -/
  | lifetime (raw : Bool) (name : String)
  /-- A punctuation mark, joint if another follows it at once. -/
  | mark (c : Char) (joint : Bool)
  | literal (kind : LiteralKind) (source : String)
  | group (delimiter : Delimiter) (inner : List Token)

def wordText (raw : Bool) (name : String) : String :=
  if raw then "r#" ++ name else name

namespace Token

mutual

/-- The token as it is written, without blanks. -/
def text : Token → String
  | .word raw name => wordText raw name
  | .lifetime raw name => "'" ++ wordText raw name
  | .mark c _ => c.toString
  | .literal _ source => source
  | .group d inner => d.opening.toString ++ textAll inner ++ d.closing.toString

def textAll : List Token → String
  | [] => ""
  | t :: ts => t.text ++ textAll ts

end

mutual

/-- The number of tokens, those in groups included. -/
def weight : Token → Nat
  | .group _ inner => weightAll inner + 1
  | _ => 1

def weightAll : List Token → Nat
  | [] => 0
  | t :: ts => t.weight + weightAll ts

end

end Token

/-- The words that cannot be names unless they are raw. -/
def keywords : List String :=
  ["_", "abstract", "as", "async", "await", "become", "box", "break", "const", "continue",
   "crate", "do", "dyn", "else", "enum", "extern", "false", "final", "fn", "for", "if", "impl",
   "in", "let", "loop", "macro", "match", "mod", "move", "mut", "override", "priv", "pub", "ref",
   "return", "Self", "self", "static", "struct", "super", "trait", "true", "try", "type",
   "typeof", "unsafe", "unsized", "use", "virtual", "where", "while", "yield"]

/-- The keywords that cannot be raw either. -/
def reservedWords : List String :=
  ["_", "super", "self", "Self", "crate"]

end Declaration

end Metrology
