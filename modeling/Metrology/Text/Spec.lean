namespace Metrology

inductive Align where
  | left
  | center
  | right
  deriving DecidableEq, Repr

structure Spec where
  fill : Char := ' '
  align : Option Align := none
  /-- Write a plus sign before what is not negative. -/
  plus : Bool := false
  /-- Lay records out over several lines. -/
  alternate : Bool := false
  /-- Fill up with zeros after the sign, instead of padding. -/
  zero : Bool := false
  width : Nat := 0
  precision : Option Nat := none
  deriving DecidableEq

namespace Spec

def repeated (c : Char) (n : Nat) : String :=
  String.ofList (List.replicate n c)

/-- In the middle the larger half of the padding comes after the text. -/
def pad (spec : Spec) (standard : Align) (text : String) : String :=
  let gap := spec.width - text.length
  match spec.align.getD standard with
  | .left => text ++ repeated spec.fill gap
  | .right => repeated spec.fill gap ++ text
  | .center => repeated spec.fill (gap / 2) ++ text ++ repeated spec.fill (gap - gap / 2)

def sign (spec : Spec) (negative : Bool) : String :=
  if negative then "-" else if spec.plus then "+" else ""

/-- A number is a sign and a body, on the right of its field. -/
def number (spec : Spec) (sign body : String) : String :=
  if spec.zero then sign ++ repeated '0' (spec.width - (sign.length + body.length)) ++ body
  else spec.pad .right (sign ++ body)

/-- Integers ignore the precision. -/
def integer (spec : Spec) (n : Int) : String :=
  spec.number (spec.sign (n < 0)) n.natAbs.repr

/-- A word is cut to the precision, and stands on the left of its field. -/
def word (spec : Spec) (text : String) : String :=
  let kept :=
    match spec.precision with
    | some n => String.ofList (text.toList.take n)
    | none => text
  spec.pad .left kept

def boolean (spec : Spec) (b : Bool) : String :=
  spec.word (if b then "true" else "false")

end Spec

namespace Record

/-- Move every line of a text in by one level. -/
def indent (text : String) : String :=
  String.ofList
    ("    ".toList ++ text.toList.flatMap fun c => if c = '\n' then "\n    ".toList else [c])

def spreadItems (items : List String) : String :=
  String.join (items.map fun item => indent item ++ ",\n")

def list (spread : Bool) (items : List String) : String :=
  if spread then "[\n" ++ spreadItems items ++ "]" else "[" ++ ", ".intercalate items ++ "]"

def applied (spread : Bool) (name : String) (arguments : List String) : String :=
  if spread then name ++ "(\n" ++ spreadItems arguments ++ ")"
  else name ++ "(" ++ ", ".intercalate arguments ++ ")"

def fields (spread : Bool) (name : String) (members : List (String × String)) : String :=
  let items := members.map fun member => member.1 ++ ": " ++ member.2
  if spread then name ++ " \x7b\n" ++ spreadItems items ++ "\x7d"
  else name ++ " \x7b " ++ ", ".intercalate items ++ " \x7d"

end Record

end Metrology
