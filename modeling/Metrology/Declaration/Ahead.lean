import Metrology.Declaration.Token

namespace Metrology

namespace Declaration

/-- The tokens after a sequence of marks, all but the last of them joint to the next; whether the
last one is joint makes no difference. -/
def marks? : List Char → List Token → Option (List Token)
  | [c], .mark d _ :: rest => if c = d then some rest else none
  | c :: cs, .mark d true :: rest => if c = d then marks? cs rest else none
  | _, _ => none

def atMark (spelling : String) (ts : List Token) : Bool :=
  (marks? spelling.toList ts).isSome

def atWord (word : String) : List Token → Bool
  | .word false name :: _ => name == word
  | _ => false

def atAnyWord : List Token → Bool
  | .word _ _ :: _ => true
  | _ => false

/-- A word can be a name if it is raw or no keyword. -/
def isName (raw : Bool) (name : String) : Bool :=
  raw || !keywords.contains name

def atName : List Token → Bool
  | .word raw name :: _ => isName raw name
  | _ => false

def atLifetime : List Token → Bool
  | .lifetime _ _ :: _ => true
  | _ => false

def LiteralKind.isNumber : LiteralKind → Bool
  | .integer _ _ => true
  | .float => true
  | _ => false

/-- A literal, a truth value, or a number with a minus sign. -/
def atLiteral : List Token → Bool
  | .literal _ _ :: _ => true
  | .word false "true" :: _ => true
  | .word false "false" :: _ => true
  | .mark '-' _ :: .literal kind _ :: _ => kind.isNumber
  | _ => false

def atInteger : List Token → Bool
  | .literal (.integer _ _) _ :: _ => true
  | .mark '-' _ :: .literal (.integer _ _) _ :: _ => true
  | _ => false

def atText : List Token → Bool
  | .literal (.text _) _ :: _ => true
  | _ => false

def atGroup (d : Delimiter) : List Token → Bool
  | .group d' _ :: _ => d == d'
  | _ => false

def atWords (words : List String) (ts : List Token) : Bool :=
  words.any fun word => atWord word ts

def atMarks (spellings : List String) (ts : List Token) : Bool :=
  spellings.any fun spelling => atMark spelling ts

def second (test : List Token → Bool) (ts : List Token) : Bool :=
  test ts.tail

def third (test : List Token → Bool) (ts : List Token) : Bool :=
  test ts.tail.tail

/-- A single point, which does not start a range. -/
def atPoint (ts : List Token) : Bool :=
  atMark "." ts && !atMark ".." ts

/-- A colon that is not doubled. -/
def atColon (ts : List Token) : Bool :=
  atMark ":" ts && !atMark "::" ts

/-- An exclamation mark that does not start a comparison. -/
def atBang (ts : List Token) : Bool :=
  atMark "!" ts && !atMark "!=" ts

/-- The keywords with which a path may start. -/
def pathWords : List String :=
  ["super", "self", "Self", "crate"]

end Declaration

end Metrology
