import Metrology.Binary.Arithmetic
import Metrology.Binary.Text
import Metrology.Integer
import Metrology.Json.Content
import Metrology.Units.Error

namespace Metrology

namespace Json

inductive ReadError where
  | malformed
  | invalidType (found expected : String)
  | invalidValue (found : Int) (expected : String)
  | invalidLength (found : Nat) (expected : String)
  | missingField (name : String)
  | duplicateField (name : String)
  | unknownField (name : String)
  | unit (error : UnitError)
  deriving DecidableEq, Repr

namespace ReadError

/-- The wording; a malformed text has none. -/
def message? : ReadError → Option String
  | .malformed => none
  | .invalidType found expected => some ("invalid type: " ++ found ++ ", expected " ++ expected)
  | .invalidValue found expected =>
      some ("invalid value: integer `" ++ Decimal.signed false found ++ "`, expected " ++
        expected)
  | .invalidLength found expected =>
      some ("invalid length " ++ found.repr ++ ", expected " ++ expected)
  | .missingField name => some ("missing field `" ++ name ++ "`")
  | .duplicateField name => some ("duplicate field `" ++ name ++ "`")
  | .unknownField name => some ("unknown field `" ++ name ++ "`, expected `value` or `unit`")
  | .unit error => some error.message

end ReadError

/-- A number where no type is asked for: an integer of at most 64 bits, or a double. -/
inductive Numeral where
  | integer (n : Int)
  | double (x : Binary .double)

/-- Integers keep a sign only below zero. -/
def Literal.integer64? (l : Literal) : Option Int :=
  match l.integer? with
  | some n =>
      if (if l.negative then IntegerKind.int64.min ≤ n && n < 0
          else n ≤ IntegerKind.uint64.max) then some n
      else none
  | none => none

/-- The nearest finite number, if there is one. A negative integer that is too small for 64 bits,
but not without its sign, goes through double precision. -/
def Literal.binary? (p : Precision) (l : Literal) : Option (Binary p) :=
  let x : Binary p :=
    match l.integer? with
    | some n =>
        if -IntegerKind.uint64.max ≤ n && n < IntegerKind.int64.min then
          (Binary.ofInt n : Binary .double).convert
        else Binary.ofDecimal l.negative l.decimal
    | none => Binary.ofDecimal l.negative l.decimal
  match x with
  | .finite negative code => some (.finite negative code)
  | _ => none

def Literal.numeral? (l : Literal) : Option Numeral :=
  match l.integer64? with
  | some n => some (.integer n)
  | none => (l.binary? .double).map .double

/-- What a value is called in a message. -/
def Content.description? : Content → Option String
  | .null => some "null"
  | .boolean b => some ("boolean `" ++ (if b then "true" else "false") ++ "`")
  | .number l =>
      l.numeral?.map fun
        | .integer n => "integer `" ++ Decimal.signed false n ++ "`"
        | .double x => "floating point `" ++ x.json ++ "`"
  | .text s => some ("string " ++ quoted s)
  | .sequence => some "sequence"
  | .map => some "map"

/-- The error for a value of the wrong type. -/
def mistyped (c : Content) (expected : String) : ReadError :=
  match c.description? with
  | some found => .invalidType found expected
  | none => .malformed

/-- An integer of 128 bits is read from digits alone; anything else is malformed. -/
def readWide (k : IntegerKind) : Content → Except ReadError (BoundedInt k)
  | .number l =>
      match l.integer? with
      | some n =>
          if l.negative && !k.signed then .error .malformed
          else
            match BoundedInt.ofInt? k n with
            | some a => .ok a
            | none => .error .malformed
      | none => .error .malformed
  | _ => .error .malformed

def readNarrow (k : IntegerKind) (c : Content) : Except ReadError (BoundedInt k) :=
  match c with
  | .number l =>
      match l.integer64? with
      | some n =>
          match BoundedInt.ofInt? k n with
          | some a => .ok a
          | none => .error (.invalidValue n k.name)
      | none => .error (mistyped c k.name)
  | _ => .error (mistyped c k.name)

def readInteger (k : IntegerKind) (c : Content) : Except ReadError (BoundedInt k) :=
  if k.bits = 128 then readWide k c else readNarrow k c

def readBinary (p : Precision) (c : Content) : Except ReadError (Binary p) :=
  match c with
  | .number l =>
      match l.binary? p with
      | some x => .ok x
      | none => .error .malformed
  | _ => .error (mistyped c p.name)

def readText (c : Content) : Except ReadError String :=
  match c with
  | .text s => .ok s
  | _ => .error (mistyped c "a string")

/-- Only blanks may follow the value of a text. -/
def finish (rest : List Char) : Except ReadError Unit :=
  if (skipBlanks rest).isEmpty then .ok () else .error .malformed

def readContent (text : String) : Except ReadError (Content × List Char) :=
  match Content.scan (skipBlanks text.toList) with
  | some found => .ok found
  | none => .error .malformed

def readScalar {α : Type} (read : Content → Except ReadError α) (text : String) :
    Except ReadError α := do
  let (c, rest) ← readContent text
  let x ← read c
  finish rest
  return x

end Json

end Metrology
