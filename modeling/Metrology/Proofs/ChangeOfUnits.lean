import Mathlib.Algebra.BigOperators.Group.List.Basic
import Mathlib.Algebra.Order.BigOperators.GroupWithZero.List
import Mathlib.Algebra.Order.Field.Basic
import Mathlib.Data.Rat.Cast.Order
import Mathlib.Tactic.NormNum.Basic
import Mathlib.Tactic.Ring
import Metrology.Number.Basic
import Metrology.Proofs.Collapse
import Metrology.Quantity.Expression

/-!
A change of the base units. Every expression over quantities is homogeneous: when all inputs are
measured in other base units, the result has the same dimension, and its magnitude changes by the
ratio that belongs to that dimension. In particular a bare number stays as it is.
-/

namespace Metrology

/-- How many new units make up an old one, for each base dimension. -/
structure UnitChange where
  factor : BaseDimension → ℚ
  factor_pos : ∀ d, 0 < factor d

namespace UnitChange

def ratio (u : UnitChange) (d : Dimension) : ℚ :=
  (BaseDimension.all.map fun b => u.factor b ^ d.get b).prod

theorem ratio_pos (u : UnitChange) (d : Dimension) : 0 < u.ratio d := by
  apply List.prod_pos
  intro r hr
  obtain ⟨b, -, rfl⟩ := List.mem_map.mp hr
  exact zpow_pos (u.factor_pos b) _

theorem ratio_eq_one (u : UnitChange) {d : Dimension} (hd : ∀ b, d.get b = 0) :
    u.ratio d = 1 := by
  simp [ratio, hd]

theorem ratio_dimensionless (u : UnitChange) : u.ratio Dimension.dimensionless = 1 :=
  u.ratio_eq_one (Exponents.get_ofFn _)

theorem ratio_product (u : UnitChange) (a b : Dimension) :
    u.ratio (a.product b) = u.ratio a * u.ratio b := by
  have hpow : ∀ d, u.factor d ^ (a.product b).get d =
      u.factor d ^ a.get d * u.factor d ^ b.get d := by
    intro d
    rw [Dimension.get_product, zpow_add₀ (u.factor_pos d).ne']
  simp only [ratio, hpow]
  exact List.prod_map_mul

end UnitChange

/-- A panic is a fault that depends on the magnitudes. -/
def Panics {α : Type} (r : Except Fault α) : Prop :=
  ∃ fault, r = .error fault ∧ fault.isStatic = false

/-- Where a first run gives a result, the second gives a related one or panics. It has no static
fault of its own. -/
def Follows {α β : Type} (related : α → β → Prop) : Except Fault α → Except Fault β → Prop
  | .ok a, .ok b => related a b
  | .ok _, .error e => e.isStatic = false
  | .error _, _ => True

namespace Follows

variable {α β γ δ : Type} {related : α → β → Prop} {related' : γ → δ → Prop}

theorem bind {r : Except Fault α} {r' : Except Fault β} {f : α → Except Fault γ}
    {g : β → Except Fault δ} (hr : Follows related r r')
    (hfg : ∀ a b, related a b → Follows related' (f a) (g b)) :
    Follows related' (r >>= f) (r' >>= g) := by
  cases r with
  | error e => exact trivial
  | ok a =>
      cases r' with
      | ok b => exact hfg a b hr
      | error e =>
          -- The second run has panicked, and the first may still end in either way.
          change Follows related' (f a) (.error e)
          cases f a with
          | ok c => exact hr
          | error e' => exact trivial

theorem map {r : Except Fault α} {r' : Except Fault β} {f : α → γ} {g : β → δ}
    (hr : Follows related r r') (hfg : ∀ a b, related a b → related' (f a) (g b)) :
    Follows related' (r.map f) (r'.map g) := by
  cases r with
  | error e => exact trivial
  | ok a =>
      cases r' with
      | ok b => exact hfg a b hr
      | error e => exact hr

end Follows

section Rescaling

variable {k : IntegerKind} {u : UnitChange}

/-- The magnitude `x'` in new units of the dimension `d` is the magnitude `x` in old ones. -/
def BoundedInt.Rescaled (u : UnitChange) (d : Dimension) (x x' : BoundedInt k) : Prop :=
  (x'.val : ℚ) = x.val * u.ratio d

structure Quantity.Rescaled (u : UnitChange) (q q' : Quantity (BoundedInt k)) : Prop where
  dimension : q'.dimension = q.dimension
  magnitude : q.magnitude.Rescaled u q.dimension q'.magnitude

inductive Value.Rescaled (u : UnitChange) :
    Value (BoundedInt k) → Value (BoundedInt k) → Prop where
  | number (x : BoundedInt k) : Value.Rescaled u (.number x) (.number x)
  | quantity {q q' : Quantity (BoundedInt k)} (h : q.Rescaled u q') :
      Value.Rescaled u (.quantity q) (.quantity q')

namespace BoundedInt

theorem Rescaled.eq_of_get_eq_zero {d : Dimension} {x x' : BoundedInt k} (h : x.Rescaled u d x')
    (hd : ∀ b, d.get b = 0) : x' = x := by
  apply BoundedInt.ext
  have hval : (x'.val : ℚ) = x.val := by
    rw [h, u.ratio_eq_one hd, mul_one]
  exact_mod_cast hval

theorem follows_orOverflow {d : Dimension} (op : Operator) {n n' : Int}
    (h : (n' : ℚ) = n * u.ratio d) :
    Follows (Rescaled u d) (orOverflow op (ofInt? k n)) (orOverflow op (ofInt? k n')) := by
  cases hn : ofInt? k n with
  | none => exact trivial
  | some a =>
      cases hn' : ofInt? k n' with
      | none => rfl
      | some b =>
          change (b.val : ℚ) = a.val * u.ratio d
          rw [ofInt?_eq_some_iff.mp hn, ofInt?_eq_some_iff.mp hn', h]

variable {d e : Dimension} {x x' y y' : BoundedInt k}

theorem Rescaled.add (hx : x.Rescaled u d x') (hy : y.Rescaled u d y') :
    Follows (Rescaled u d) (Arithmetic.add x y) (Arithmetic.add x' y') := by
  apply follows_orOverflow
  push_cast
  rw [hx, hy]
  ring

theorem Rescaled.sub (hx : x.Rescaled u d x') (hy : y.Rescaled u d y') :
    Follows (Rescaled u d) (Arithmetic.sub x y) (Arithmetic.sub x' y') := by
  apply follows_orOverflow
  push_cast
  rw [hx, hy]
  ring

theorem Rescaled.mul (hx : x.Rescaled u d x') (hy : y.Rescaled u e y') :
    Follows (Rescaled u (d.product e)) (Arithmetic.mul x y) (Arithmetic.mul x' y') := by
  apply follows_orOverflow
  push_cast
  rw [hx, hy, u.ratio_product]
  ring

theorem Rescaled.mul_number (hx : x.Rescaled u d x') (y : BoundedInt k) :
    Follows (Rescaled u d) (Arithmetic.mul x y) (Arithmetic.mul x' y) := by
  apply follows_orOverflow
  push_cast
  rw [hx]
  ring

theorem Rescaled.number_mul (hx : x.Rescaled u d x') (y : BoundedInt k) :
    Follows (Rescaled u d) (Arithmetic.mul y x) (Arithmetic.mul y x') := by
  apply follows_orOverflow
  push_cast
  rw [hx]
  ring

theorem Rescaled.negate (hx : x.Rescaled u d x') :
    Follows (Rescaled u d) (orOverflow .negate x.neg?) (orOverflow .negate x'.neg?) := by
  apply follows_orOverflow
  push_cast
  rw [hx]
  ring

theorem Rescaled.neg (hx : x.Rescaled u d x') :
    Follows (Rescaled u d) (Arithmetic.neg x) (Arithmetic.neg x') := by
  change Follows _ (if k.signed then _ else _) (if k.signed then _ else _)
  split
  · exact hx.negate
  · exact trivial

/-- The ratio is positive, so that a change of units keeps the sign. -/
theorem Rescaled.neg_iff (hx : x.Rescaled u d x') : x'.val < 0 ↔ x.val < 0 := by
  have hcast : (x'.val : ℚ) < 0 ↔ (x.val : ℚ) < 0 := by
    rw [hx, mul_neg_iff]
    have hpos := u.ratio_pos d
    simp [hpos, hpos.le.not_gt]
  exact_mod_cast hcast

theorem Rescaled.abs (hx : x.Rescaled u d x') :
    Follows (Rescaled u d) (Arithmetic.abs x) (Arithmetic.abs x') := by
  change Follows _ (if k.signed then x.abs else _) (if k.signed then x'.abs else _)
  split
  · unfold BoundedInt.abs
    by_cases hneg : x.val < 0
    · rw [if_pos hneg, if_pos (hx.neg_iff.mpr hneg)]
      exact hx.negate
    · rw [if_neg hneg, if_neg (mt hx.neg_iff.mp hneg)]
      exact hx
  · exact trivial

end BoundedInt

namespace Quantity

variable {q q' r r' : Quantity (BoundedInt k)}

theorem Rescaled.withMagnitude {m m' : Except Fault (BoundedInt k)} (hq : q.Rescaled u q')
    (hm : Follows (BoundedInt.Rescaled u q.dimension) m m') :
    Follows (Rescaled u) (q.withMagnitude m) (q'.withMagnitude m') := by
  rw [withMagnitude_eq_map, withMagnitude_eq_map]
  exact hm.map fun _ _ hx => ⟨hq.dimension, hx⟩

theorem Rescaled.sameDimension {β γ : Type} {related : β → γ → Prop} {s : Except Fault β}
    {s' : Except Fault γ} (hq : q.Rescaled u q') (hr : r.Rescaled u r')
    (hs : q.dimension = r.dimension → Follows related s s') :
    Follows related (q.sameDimension r s) (q'.sameDimension r' s') := by
  unfold Quantity.sameDimension
  rw [hq.dimension, hr.dimension]
  split
  · rename_i hdimension
    exact hs hdimension
  · exact trivial

theorem Rescaled.add (hq : q.Rescaled u q') (hr : r.Rescaled u r') :
    Follows (Rescaled u) (q.add r) (q'.add r') := by
  refine hq.sameDimension hr fun hdimension => hq.withMagnitude ?_
  exact hq.magnitude.add (hdimension ▸ hr.magnitude)

theorem Rescaled.sub (hq : q.Rescaled u q') (hr : r.Rescaled u r') :
    Follows (Rescaled u) (q.sub r) (q'.sub r') := by
  refine hq.sameDimension hr fun hdimension => hq.withMagnitude ?_
  exact hq.magnitude.sub (hdimension ▸ hr.magnitude)

theorem Rescaled.neg (hq : q.Rescaled u q') : Follows (Rescaled u) q.neg q'.neg :=
  hq.withMagnitude hq.magnitude.neg

theorem Rescaled.abs (hq : q.Rescaled u q') : Follows (Rescaled u) q.abs q'.abs :=
  hq.withMagnitude hq.magnitude.abs

theorem follows_zero (d : Dimension) :
    Follows (Rescaled u) (zero d : Except Fault (Quantity (BoundedInt k))) (zero d) := by
  unfold zero
  cases hd : d.isMeasurable with
  | true =>
      rw [build_of_measurable hd]
      refine ⟨rfl, ?_⟩
      change ((0 : BoundedInt k).val : ℚ) = (0 : BoundedInt k).val * u.ratio d
      simp
  | false =>
      rw [build_of_not_measurable hd]
      exact trivial

theorem follows_foldlM {qs qs' : List (Quantity (BoundedInt k))}
    (hqs : List.Forall₂ (Rescaled u) qs qs') (hq : q.Rescaled u q') :
    Follows (Rescaled u) (qs.foldlM Quantity.add q) (qs'.foldlM Quantity.add q') := by
  induction hqs generalizing q q' with
  | nil => exact hq
  | cons hhead _ ih =>
      simp only [List.foldlM_cons]
      exact (hq.add hhead).bind fun _ _ hsum => ih hsum

theorem follows_sum (d : Dimension) {qs qs' : List (Quantity (BoundedInt k))}
    (hqs : List.Forall₂ (Rescaled u) qs qs') : Follows (Rescaled u) (sum d qs) (sum d qs') :=
  (follows_zero d).bind fun _ _ hzero => follows_foldlM hqs hzero

end Quantity

/-- A dimension without exponents has the ratio one, so that a bare number is rescaled to
itself. -/
theorem Value.follows_collapse {d : Dimension} {m m' : Except Fault (BoundedInt k)}
    (hm : Follows (BoundedInt.Rescaled u d) m m') :
    Follows (Rescaled u) (collapse d m) (collapse d m') := by
  rcases d.trichotomy with hzero | hgap | hmeasurable
  · rw [collapse_eq_map_number hzero, collapse_eq_map_number hzero]
    refine hm.map fun x x' hx => ?_
    rw [hx.eq_of_get_eq_zero hzero]
    exact .number x
  · rw [collapse_of_inGap hgap]
    exact trivial
  · rw [collapse_eq_map_quantity hmeasurable, collapse_eq_map_quantity hmeasurable]
    exact hm.map fun _ _ hx => .quantity ⟨rfl, hx⟩

theorem Quantity.Rescaled.mul {q q' r r' : Quantity (BoundedInt k)} (hq : q.Rescaled u q')
    (hr : r.Rescaled u r') : Follows (Value.Rescaled u) (q.mul r) (q'.mul r') := by
  unfold Quantity.mul
  rw [hq.dimension, hr.dimension]
  exact Value.follows_collapse (hq.magnitude.mul hr.magnitude)

namespace Value

variable {v v' w w' : Value (BoundedInt k)}

theorem Rescaled.quantity? (hv : v.Rescaled u v') :
    Follows (Quantity.Rescaled u) v.quantity? v'.quantity? := by
  cases hv with
  | number x => exact trivial
  | quantity hq => exact hq

theorem Rescaled.mul (hv : v.Rescaled u v') (hw : w.Rescaled u w') :
    Follows (Rescaled u) (v.mul w) (v'.mul w') := by
  cases hv with
  | number x =>
      cases hw with
      | number y => exact trivial
      | quantity hr =>
          have hscaled := hr.withMagnitude (hr.magnitude.number_mul x)
          exact hscaled.bind fun _ _ h => .quantity h
  | quantity hq =>
      cases hw with
      | number y =>
          have hscaled := hq.withMagnitude (hq.magnitude.mul_number y)
          exact hscaled.bind fun _ _ h => .quantity h
      | quantity hr => exact hq.mul hr

theorem Rescaled.dimension_eq (hv : v.Rescaled u v') : v'.dimension = v.dimension := by
  cases hv with
  | number x => rfl
  | quantity hq => exact hq.dimension

theorem Rescaled.magnitude_eq (hv : v.Rescaled u v') :
    (v'.magnitude.val : ℚ) = v.magnitude.val * u.ratio v.dimension := by
  cases hv with
  | number x =>
      rw [Value.dimension, u.ratio_dimensionless, mul_one]
  | quantity hq => exact hq.magnitude

end Value

namespace Expression

variable {ι : Type} {inputs inputs' : ι → Quantity (BoundedInt k)}

mutual

theorem follows_eval (hinputs : ∀ name, (inputs name).Rescaled u (inputs' name)) :
    (e : Expression ι (BoundedInt k)) →
    Follows (Value.Rescaled u) (e.eval inputs) (e.eval inputs')
  | .input name => .quantity (hinputs name)
  | .zero d => by
      unfold eval
      exact (Quantity.follows_zero d).bind fun _ _ h => .quantity h
  | .number x => .number x
  | .add left right => by
      unfold eval
      refine (follows_eval hinputs left).bind fun _ _ hv => hv.quantity?.bind fun _ _ hq => ?_
      refine (follows_eval hinputs right).bind fun _ _ hw => hw.quantity?.bind fun _ _ hr => ?_
      exact (hq.add hr).bind fun _ _ h => .quantity h
  | .sub left right => by
      unfold eval
      refine (follows_eval hinputs left).bind fun _ _ hv => hv.quantity?.bind fun _ _ hq => ?_
      refine (follows_eval hinputs right).bind fun _ _ hw => hw.quantity?.bind fun _ _ hr => ?_
      exact (hq.sub hr).bind fun _ _ h => .quantity h
  | .neg body => by
      unfold eval
      refine (follows_eval hinputs body).bind fun _ _ hv => hv.quantity?.bind fun _ _ hq => ?_
      exact hq.neg.bind fun _ _ h => .quantity h
  | .abs body => by
      unfold eval
      refine (follows_eval hinputs body).bind fun _ _ hv => hv.quantity?.bind fun _ _ hq => ?_
      exact hq.abs.bind fun _ _ h => .quantity h
  | .mul left right => by
      unfold eval
      refine (follows_eval hinputs left).bind fun _ _ hv => ?_
      exact (follows_eval hinputs right).bind fun _ _ hw => hv.mul hw
  | .square body => by
      unfold eval
      refine (follows_eval hinputs body).bind fun _ _ hv => hv.quantity?.bind fun _ _ hq => ?_
      exact hq.mul hq
  | .cube body => by
      unfold eval
      refine (follows_eval hinputs body).bind fun _ _ hv => hv.quantity?.bind fun _ _ hq => ?_
      exact (hq.mul hq).bind fun _ _ hsquare => hsquare.mul (.quantity hq)
  | .sum d summands => by
      unfold eval
      refine (follows_evalAll hinputs summands).bind fun _ _ hqs => ?_
      exact (Quantity.follows_sum d hqs).bind fun _ _ h => .quantity h

theorem follows_evalAll (hinputs : ∀ name, (inputs name).Rescaled u (inputs' name)) :
    (es : List (Expression ι (BoundedInt k))) →
      Follows (List.Forall₂ (Quantity.Rescaled u)) (evalAll inputs es) (evalAll inputs' es)
  | [] => .nil
  | e :: es => by
      unfold evalAll
      refine (follows_eval hinputs e).bind fun _ _ hv => hv.quantity?.bind fun _ _ hq => ?_
      exact (follows_evalAll hinputs es).bind fun _ _ hqs => .cons hq hqs

end

/-- Homogeneity: a second run in other units, if it does not panic, gives the same value in those
units. -/
theorem eval_changeOfUnits (e : Expression ι (BoundedInt k)) (u : UnitChange)
    (hinputs : ∀ name, (inputs name).Rescaled u (inputs' name)) {v : Value (BoundedInt k)}
    (hv : e.eval inputs = .ok v) (hpanic : ¬ Panics (e.eval inputs')) :
    ∃ v', e.eval inputs' = .ok v' ∧ v'.dimension = v.dimension ∧
      (v'.magnitude.val : ℚ) = v.magnitude.val * u.ratio v.dimension ∧
      ∀ x, v = .number x → v' = .number x := by
  have hfollows := follows_eval hinputs e
  rw [hv] at hfollows
  cases hv' : e.eval inputs' with
  | error fault =>
      rw [hv'] at hfollows
      exact absurd ⟨fault, hv', hfollows⟩ hpanic
  | ok v' =>
      rw [hv'] at hfollows
      have hrescaled : v.Rescaled u v' := hfollows
      refine ⟨v', rfl, hrescaled.dimension_eq, hrescaled.magnitude_eq, ?_⟩
      rintro x rfl
      cases hrescaled with
      | number x => rfl

def toSeconds : UnitChange where
  factor d := if d = .time then 60 else 1
  factor_pos d := by
    split <;> norm_num

def pulses (frequency duration : Int) : Bool → Quantity (BoundedInt .int32)
  | false => ⟨⟨0, 0, -1, 0, 0, 0, 0⟩, BoundedInt.wrap .int32 frequency, rfl⟩
  | true => ⟨⟨0, 0, 1, 0, 0, 0, 0⟩, BoundedInt.wrap .int32 duration, rfl⟩

/-- The number of pulses times the duration, the duration without its sign, three durations less
one, and the square of the frequency times the cube of the duration. -/
def pulseTimes : Expression Bool (BoundedInt .int32) :=
  let frequency := .input false
  let duration := .input true
  .sum ⟨0, 0, 1, 0, 0, 0, 0⟩
    [.mul (.mul frequency duration) duration,
     .abs (.neg duration),
     .sub (.mul (.number (BoundedInt.wrap .int32 3)) duration)
       (.add duration (.zero ⟨0, 0, 1, 0, 0, 0, 0⟩)),
     .mul (.square frequency) (.cube duration)]

/-- Minutes become seconds. The number of pulses is bare and serves as a factor. -/
theorem eval_changeOfUnits_pulses :
    (∀ name, (pulses 120 4 name).Rescaled toSeconds (pulses 2 240 name)) ∧
      ∃ v', eval (pulses 2 240) pulseTimes = .ok v' ∧
        v'.dimension = ⟨0, 0, 1, 0, 0, 0, 0⟩ ∧
        (v'.magnitude.val : ℚ) = 923532 * toSeconds.ratio ⟨0, 0, 1, 0, 0, 0, 0⟩ := by
  have hinputs : ∀ name, (pulses 120 4 name).Rescaled toSeconds (pulses 2 240 name) := by
    intro name
    cases name with
    | false =>
        refine ⟨rfl, ?_⟩
        change (2 : ℚ) = 120 * toSeconds.ratio ⟨0, 0, -1, 0, 0, 0, 0⟩
        norm_num [UnitChange.ratio, toSeconds, BaseDimension.all, Exponents.get]
    | true =>
        refine ⟨rfl, ?_⟩
        change (240 : ℚ) = 4 * toSeconds.ratio ⟨0, 0, 1, 0, 0, 0, 0⟩
        norm_num [UnitChange.ratio, toSeconds, BaseDimension.all, Exponents.get]
  have hminutes : eval (pulses 120 4) pulseTimes =
      .ok (.quantity ⟨⟨0, 0, 1, 0, 0, 0, 0⟩, BoundedInt.wrap .int32 923532, rfl⟩) := rfl
  refine ⟨hinputs, ?_⟩
  obtain ⟨v', hv', hdimension, hmagnitude, -⟩ :=
    eval_changeOfUnits pulseTimes toSeconds hinputs hminutes
      (by rintro ⟨fault, hfault, -⟩; cases hfault)
  exact ⟨v', hv', hdimension, hmagnitude⟩

end Expression

end Rescaling

end Metrology
