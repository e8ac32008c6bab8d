import Metrology.Quantity.Basic

namespace Metrology

open Json

/-- What has been read from the entries of an object so far. -/
structure StoredFields (α : Type) where
  value : Option α := none
  unit : Option String := none

namespace StoredFields

variable {α : Type}

/-- Take one entry. A key that is unknown or was there before is an error, whatever its value
is. -/
def take (read : Content → Except ReadError α) (fields : StoredFields α) (key : String)
    (content : Option Content) : Except ReadError (StoredFields α) :=
  match key with
  | "value" =>
      match fields.value, content with
      | some _, _ => .error (.duplicateField "value")
      | none, none => .error .malformed
      | none, some c => do return { fields with value := some (← read c) }
  | "unit" =>
      match fields.unit, content with
      | some _, _ => .error (.duplicateField "unit")
      | none, none => .error .malformed
      | none, some c => do return { fields with unit := some (← readText c) }
  | key => .error (.unknownField key)

/-- Take all entries up to the end of the object. -/
def takeAll (read : Content → Except ReadError α) (fields : StoredFields α) :
    Members → Except ReadError (StoredFields α × List Char)
  | .closed rest => .ok (fields, rest)
  | .broken => .error .malformed
  | .entry key content more =>
      match fields.take read key content with
      | .ok fields => fields.takeAll read more
      | .error e => .error e

/-- The value must be there; the unit, if it is there, must be the expected one. Another unit is
the one error that is logged. -/
def complete (expected : String) (fields : StoredFields α) : Logged ReadError α :=
  match fields.value, fields.unit with
  | none, _ => .fail (.missingField "value")
  | some x, none => pure x
  | some x, some found =>
      if found = expected then pure x else UnitError.raise .unit (.mismatch expected found)

/-- The object read entry by entry, and the text behind it. -/
def visit (read : Content → Except ReadError α) (expected : String) (members : Members) :
    Logged ReadError (α × List Char) := do
  let (fields, rest) ← takeAll read {} members
  let x ← fields.complete expected
  return (x, rest)

end StoredFields

namespace Quantity

variable {α : Type} [Written α]

def json (q : Quantity α) : String :=
  Written.json q.magnitude

def jsonWithUnit (q : Quantity α) : String :=
  "\x7b\"value\":" ++ q.json ++ ",\"unit\":" ++ Text.write q.unitSymbol ++ "\x7d"

def readMagnitude (text : String) : Except ReadError α :=
  readScalar Written.read text

def readMagnitudeWithUnit (d : Dimension) (text : String) : Logged ReadError α := do
  let (c, rest) ← readContent text
  match c with
  | .map =>
      let (x, rest) ←
        StoredFields.visit Written.read d.vector.symbol (Members.scan (rest.length + 1) true rest)
      finish rest
      return x
  | c => .fail (mistyped c "struct Quantity with value and unit fields")

end Quantity

end Metrology
