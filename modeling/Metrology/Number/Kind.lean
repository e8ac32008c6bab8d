import Metrology.Number.Basic

namespace Metrology

namespace Number

inductive Kind where
  | integer (k : IntegerKind)
  | binary (p : Precision)
  deriving DecidableEq, Repr

namespace Kind

@[reducible]
def Carrier : Kind → Type
  | .integer k => BoundedInt k
  | .binary p => Binary p

def name : Kind → String
  | .integer k => k.name
  | .binary p => p.name

def all : List Kind :=
  [.binary .double, .binary .single] ++ IntegerKind.all.map .integer

def ofName? (text : String) : Option Kind :=
  all.find? fun kind => kind.name = text

instance : (kind : Kind) → Arithmetic kind.Carrier
  | .integer _ => inferInstanceAs (Arithmetic (BoundedInt _))
  | .binary _ => inferInstanceAs (Arithmetic (Binary _))

instance : (kind : Kind) → Written kind.Carrier
  | .integer _ => inferInstanceAs (Written (BoundedInt _))
  | .binary _ => inferInstanceAs (Written (Binary _))

/-- The integer part in the range of the kind; what is not a number becomes zero. -/
def saturate {p : Precision} (k : IntegerKind) (x : Binary p) : BoundedInt k :=
  match x with
  | .nan => 0
  | .infinite negative => BoundedInt.clamp k (if negative then k.min else k.max)
  | .finite _ _ => BoundedInt.clamp k (x.truncate?.getD 0)

/-- Between integers the residue is taken, from binary numbers to integers the nearest one toward
zero, and else the nearest number. -/
def cast : {source target : Kind} → source.Carrier → target.Carrier
  | .integer _, .integer k, x => BoundedInt.wrap k x.val
  | .integer _, .binary _, x => Binary.ofInt x.val
  | .binary _, .integer k, x => saturate k x
  | .binary _, .binary _, x => x.convert

def signed (width : Width) : Kind :=
  .integer ⟨true, width⟩

def unsigned (width : Width) : Kind :=
  .integer ⟨false, width⟩

/-- The types that take every number of a type. -/
def wider : Kind → List Kind
  | .binary .single => [.binary .double]
  | .integer ⟨true, .w8⟩ =>
      [signed .w16, signed .w32, signed .w64, signed .w128, .binary .single, .binary .double]
  | .integer ⟨true, .w16⟩ =>
      [signed .w32, signed .w64, signed .w128, .binary .single, .binary .double]
  | .integer ⟨true, .w32⟩ => [signed .w64, signed .w128, .binary .double]
  | .integer ⟨true, .w64⟩ => [signed .w128]
  | .integer ⟨false, .w8⟩ =>
      [unsigned .w16, unsigned .w32, unsigned .w64, unsigned .w128, signed .w16, signed .w32,
        signed .w64, signed .w128, .binary .single, .binary .double]
  | .integer ⟨false, .w16⟩ =>
      [unsigned .w32, unsigned .w64, unsigned .w128, signed .w32, signed .w64, signed .w128,
        .binary .single, .binary .double]
  | .integer ⟨false, .w32⟩ =>
      [unsigned .w64, unsigned .w128, signed .w64, signed .w128, .binary .double]
  | .integer ⟨false, .w64⟩ => [unsigned .w128, signed .w128]
  | _ => []

/-- Conversion between types of which the second takes every number of the first. -/
def widen {source : Kind} (target : Kind) (x : source.Carrier) : Except Fault target.Carrier :=
  if target ∈ source.wider then .ok (cast x) else .error .noSuchConversion

end Kind

end Number

end Metrology
