import Metrology.Decimal
import Metrology.Fault

/-!
Integers of fixed width. A `BoundedInt k` is an integer together with the proof that it lies in
the range of the kind `k`, and every operation is said through the exact integers: the checked
ones fail exactly when the exact result is out of range, and `wrap` is the residue modulo
`2 ^ bits`.
-/

namespace Metrology

inductive Width where
  | w8
  | w16
  | w32
  | w64
  | w128
  | size
  deriving DecidableEq, Repr

def Width.bits : Width → Nat
  | .w8 => 8
  | .w16 => 16
  | .w32 => 32
  | .w64 => 64
  | .w128 => 128
  | .size => 64

def Width.label : Width → String
  | .w8 => "8"
  | .w16 => "16"
  | .w32 => "32"
  | .w64 => "64"
  | .w128 => "128"
  | .size => "size"

structure IntegerKind where
  signed : Bool
  width : Width
  deriving DecidableEq, Repr

namespace IntegerKind

def bits (k : IntegerKind) : Nat :=
  k.width.bits

def name (k : IntegerKind) : String :=
  (if k.signed then "i" else "u") ++ k.width.label

def min (k : IntegerKind) : Int :=
  if k.signed then -twoPow (k.bits - 1) else 0

def max (k : IntegerKind) : Int :=
  if k.signed then twoPow (k.bits - 1) - 1 else twoPow k.bits - 1

def int8 : IntegerKind :=
  ⟨true, .w8⟩

def int32 : IntegerKind :=
  ⟨true, .w32⟩

def int64 : IntegerKind :=
  ⟨true, .w64⟩

def uint64 : IntegerKind :=
  ⟨false, .w64⟩

def all : List IntegerKind :=
  [true, false].flatMap fun signed =>
    [Width.w8, .w16, .w32, .w64, .w128, .size].map fun width => ⟨signed, width⟩

theorem min_le_zero (k : IntegerKind) : k.min ≤ 0 := by
  rcases k with ⟨_ | _, w⟩ <;> cases w <;> decide

theorem zero_le_max (k : IntegerKind) : 0 ≤ k.max := by
  rcases k with ⟨_ | _, w⟩ <;> cases w <;> decide

end IntegerKind

/-- An integer in the range of the kind `k`. -/
@[ext]
structure BoundedInt (k : IntegerKind) where
  val : Int
  min_le : k.min ≤ val
  le_max : val ≤ k.max
  deriving DecidableEq

namespace BoundedInt

variable {k : IntegerKind}

def ofInt? (k : IntegerKind) (n : Int) : Option (BoundedInt k) :=
  if h : k.min ≤ n ∧ n ≤ k.max then some ⟨n, h.1, h.2⟩ else none

theorem ofInt?_eq_some_iff {n : Int} {a : BoundedInt k} : ofInt? k n = some a ↔ a.val = n := by
  unfold ofInt?
  split
  · rw [Option.some.injEq, BoundedInt.ext_iff]
    exact eq_comm
  · rename_i h
    constructor
    · intro h'
      simp at h'
    · rintro rfl
      exact absurd ⟨a.min_le, a.le_max⟩ h

theorem ofInt?_eq_none_iff {n : Int} : ofInt? k n = none ↔ n < k.min ∨ k.max < n := by
  unfold ofInt?
  split <;> simp <;> omega

@[simp]
theorem ofInt?_val (a : BoundedInt k) : ofInt? k a.val = some a :=
  ofInt?_eq_some_iff.mpr rfl

/-- The residue of an integer modulo `2 ^ bits`, taken in the range of the kind. -/
def residue (k : IntegerKind) (n : Int) : Int :=
  if k.signed then n.bmod (twoPow k.bits) else n % twoPow k.bits

theorem min_le_residue (k : IntegerKind) (n : Int) : k.min ≤ residue k n := by
  rcases k with ⟨_ | _, w⟩
  · cases w <;> exact Int.emod_nonneg _ (by decide)
  · cases w <;> exact Int.le_bmod (by decide)

theorem residue_le_max (k : IntegerKind) (n : Int) : residue k n ≤ k.max := by
  rcases k with ⟨_ | _, w⟩
  · cases w <;> exact Int.le_sub_one_of_lt (Int.emod_lt_of_pos _ (by decide))
  · cases w <;> exact Int.le_sub_one_of_lt (Int.bmod_lt (by decide))

def wrap (k : IntegerKind) (n : Int) : BoundedInt k :=
  ⟨residue k n, min_le_residue k n, residue_le_max k n⟩

theorem val_wrap (k : IntegerKind) (n : Int) : (wrap k n).val = residue k n :=
  rfl

theorem residue_val (a : BoundedInt k) : residue k a.val = a.val := by
  have hmin := a.min_le
  have hmax := a.le_max
  rcases k with ⟨_ | _, w⟩
  · refine Int.emod_eq_of_lt hmin ?_
    cases w <;> exact Int.lt_of_le_sub_one hmax
  · refine Int.bmod_eq_of_le ?_ ?_
    · cases w <;> exact hmin
    · cases w <;> exact Int.lt_of_le_sub_one hmax

/-- The residue of an integer in range is that integer. -/
@[simp]
theorem wrap_val (a : BoundedInt k) : wrap k a.val = a :=
  BoundedInt.ext (residue_val a)

/-- The nearest integer in the range of the kind. -/
def clamp (k : IntegerKind) (n : Int) : BoundedInt k :=
  if h : k.min ≤ n ∧ n ≤ k.max then ⟨n, h.1, h.2⟩
  else if n < k.min then ⟨k.min, Int.le_refl _, Int.le_trans k.min_le_zero k.zero_le_max⟩
  else ⟨k.max, Int.le_trans k.min_le_zero k.zero_le_max, Int.le_refl _⟩

@[simp]
theorem clamp_val (a : BoundedInt k) : clamp k a.val = a :=
  dif_pos ⟨a.min_le, a.le_max⟩

instance : Zero (BoundedInt k) :=
  ⟨⟨0, k.min_le_zero, k.zero_le_max⟩⟩

@[simp]
theorem val_zero : (0 : BoundedInt k).val = 0 :=
  rfl

def add? (a b : BoundedInt k) : Option (BoundedInt k) :=
  ofInt? k (a.val + b.val)

def sub? (a b : BoundedInt k) : Option (BoundedInt k) :=
  ofInt? k (a.val - b.val)

def mul? (a b : BoundedInt k) : Option (BoundedInt k) :=
  ofInt? k (a.val * b.val)

def neg? (a : BoundedInt k) : Option (BoundedInt k) :=
  ofInt? k (-a.val)

/-- The quotient where it is exact and in range. -/
def divExact? (a b : BoundedInt k) : Option (BoundedInt k) :=
  if b.val ≠ 0 ∧ a.val.tmod b.val = 0 then ofInt? k (a.val.tdiv b.val) else none

theorem add?_eq_some_iff {a b c : BoundedInt k} : a.add? b = some c ↔ c.val = a.val + b.val :=
  ofInt?_eq_some_iff

theorem sub?_eq_some_iff {a b c : BoundedInt k} : a.sub? b = some c ↔ c.val = a.val - b.val :=
  ofInt?_eq_some_iff

theorem mul?_eq_some_iff {a b c : BoundedInt k} : a.mul? b = some c ↔ c.val = a.val * b.val :=
  ofInt?_eq_some_iff

theorem divExact?_eq_some_iff {a b c : BoundedInt k} :
    a.divExact? b = some c ↔ b.val ≠ 0 ∧ a.val = c.val * b.val := by
  unfold divExact?
  split
  · rename_i h
    rw [ofInt?_eq_some_iff]
    have hdvd : b.val ∣ a.val := Int.dvd_of_tmod_eq_zero h.2
    constructor
    · intro hc
      refine ⟨h.1, ?_⟩
      rw [hc, Int.tdiv_mul_cancel hdvd]
    · rintro ⟨_, ha⟩
      rw [ha, Int.mul_tdiv_cancel _ h.1]
  · rename_i h
    constructor
    · intro hc
      simp at hc
    · rintro ⟨hb, ha⟩
      refine absurd ⟨hb, ?_⟩ h
      rw [ha, Int.mul_tmod_left]

/-- The outcome of a checked operation, where `none` stands for overflow. -/
def orOverflow (op : Operator) (r : Option (BoundedInt k)) : Except Fault (BoundedInt k) :=
  match r with
  | some a => .ok a
  | none => .error (.overflow op)

/-- Division rounds toward zero. -/
def div (a b : BoundedInt k) : Except Fault (BoundedInt k) :=
  if b.val = 0 then .error .divisionByZero
  else orOverflow .divide (ofInt? k (a.val.tdiv b.val))

def abs (a : BoundedInt k) : Except Fault (BoundedInt k) :=
  if a.val < 0 then orOverflow .negate a.neg? else .ok a

end BoundedInt

namespace BoundedInt

variable {k : IntegerKind}

def sorted (xs : List (BoundedInt k)) : List (BoundedInt k) :=
  xs.mergeSort fun x y => x.val ≤ y.val

def distinct (xs : List (BoundedInt k)) : Nat :=
  xs.eraseDups.length

def least? (xs : List (BoundedInt k)) : Option (BoundedInt k) :=
  (sorted xs).head?

def greatest? (xs : List (BoundedInt k)) : Option (BoundedInt k) :=
  (sorted xs).getLast?

end BoundedInt

end Metrology
