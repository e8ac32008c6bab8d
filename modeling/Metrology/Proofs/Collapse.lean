import Metrology.Number.Basic
import Metrology.Proofs.VectorRefinement
import Metrology.Quantity.Power

/-!
The collapse of dimensionless results. Two tests meet here: a result becomes a bare number where
its exponents are zero, and a quantity is refused where their residues are. A result in the gap
between the two is refused. Products and powers can fall into it; quotients of a number by a
quantity and roots cannot.
-/

namespace Metrology

theorem ExponentVector.isDimensionless_iff {v : ExponentVector} :
    v.isDimensionless = true ↔ ∀ d, v.get d = 0 := by
  simp only [isDimensionless, List.all_eq_true, beq_iff_eq]
  exact ⟨fun h d => h d d.mem_all, fun h d _ => h d⟩

namespace Dimension

/-- The residues of the exponents are all zero, but the exponents are not. -/
def InGap (a : Dimension) : Prop :=
  (∃ d, a.get d ≠ 0) ∧ ∀ d, (256 : Int) ∣ a.get d

theorem isMeasurable_iff {a : Dimension} :
    a.isMeasurable = true ↔ ∃ d, ¬ (256 : Int) ∣ a.get d := by
  unfold isMeasurable
  rw [Bool.not_eq_true', Bool.eq_false_iff, ne_eq, ExponentVector.isDimensionless_iff, not_forall]
  refine exists_congr fun d => not_congr ?_
  rw [get_vector]
  exact BoundedInt.wrap_eq_zero_iff

theorem not_isDimensionless_of_isMeasurable {a : Dimension} (h : a.isMeasurable = true) :
    a.isDimensionless = false := by
  obtain ⟨d, hd⟩ := isMeasurable_iff.mp h
  rw [Bool.eq_false_iff, ne_eq, isDimensionless_iff]
  intro hzero
  exact hd (hzero d ▸ dvd_zero 256)

theorem isMeasurable_eq_false_iff {a : Dimension} :
    a.isMeasurable = false ↔ ∀ d, (256 : Int) ∣ a.get d := by
  rw [← Bool.not_eq_true, isMeasurable_iff, not_exists_not]

theorem trichotomy (a : Dimension) :
    (∀ d, a.get d = 0) ∨ a.InGap ∨ a.isMeasurable = true := by
  cases h : a.isMeasurable with
  | true => exact .inr (.inr rfl)
  | false =>
      rw [isMeasurable_eq_false_iff] at h
      by_cases hzero : ∀ d, a.get d = 0
      · exact .inl hzero
      · exact .inr (.inl ⟨not_forall.mp hzero, h⟩)

end Dimension

namespace Quantity

variable {α : Type}

theorem build_eq_map {d : Dimension} (h : d.isMeasurable = true) (magnitude : Except Fault α) :
    build d magnitude = magnitude.map fun x => ⟨d, x, h⟩ := by
  unfold build
  rw [dif_pos h]
  cases magnitude <;> rfl

theorem withMagnitude_eq_map {β : Type} (q : Quantity α) (magnitude : Except Fault β) :
    q.withMagnitude magnitude = magnitude.map fun x => ⟨q.dimension, x, q.measurable⟩ := by
  cases magnitude <;> rfl

end Quantity

namespace Value

variable {α : Type} {d : Dimension}

theorem collapse_eq_map_number (h : ∀ b, d.get b = 0) (magnitude : Except Fault α) :
    collapse d magnitude = magnitude.map .number := by
  unfold collapse
  rw [if_pos (Dimension.isDimensionless_iff.mpr h)]
  cases magnitude <;> rfl

theorem collapse_of_inGap (h : d.InGap) (magnitude : Except Fault α) :
    collapse d magnitude = .error .dimensionless := by
  obtain ⟨b, hb⟩ := h.1
  refine collapse_of_not_measurable ?_ (Dimension.isMeasurable_eq_false_iff.mpr h.2) magnitude
  rw [Bool.eq_false_iff, ne_eq, Dimension.isDimensionless_iff]
  intro hzero
  exact hb (hzero b)

theorem collapse_eq_map_quantity (h : d.isMeasurable = true) (magnitude : Except Fault α) :
    collapse d magnitude = magnitude.map fun x => .quantity ⟨d, x, h⟩ := by
  unfold collapse
  rw [if_neg (by simp [Dimension.not_isDimensionless_of_isMeasurable h]), Quantity.build_eq_map h]
  cases magnitude <;> rfl

end Value

/-- What becomes of a magnitude that has the dimension `d`. -/
structure CollapseLaw {α : Type} (d : Dimension) (magnitude : Except Fault α)
    (result : Except Fault (Value α)) : Prop where
  number_iff : ∀ x, magnitude = .ok x → (result = .ok (.number x) ↔ ∀ b, d.get b = 0)
  refused_iff : ∀ x, magnitude = .ok x → (result = .error .dimensionless ↔ d.InGap)
  quantity_iff : ∀ x, magnitude = .ok x →
    ((∃ h, result = .ok (.quantity ⟨d, x, h⟩)) ↔ ∃ b, ¬ (256 : Int) ∣ d.get b)
  /-- A fault of the magnitude is that of the result, unless the dimension is refused before. -/
  fault : ∀ e, magnitude = .error e →
    (d.InGap → result = .error .dimensionless) ∧ (¬ d.InGap → result = .error e)

namespace Value

variable {α : Type}

theorem collapse_law (d : Dimension) (magnitude : Except Fault α) :
    CollapseLaw d magnitude (collapse d magnitude) := by
  rcases d.trichotomy with hzero | hgap | hmeasurable
  · have hnotGap : ¬ d.InGap := fun h => h.1.elim fun b hb => hb (hzero b)
    rw [collapse_eq_map_number hzero]
    constructor
    · rintro x rfl
      exact iff_of_true rfl hzero
    · rintro x rfl
      exact iff_of_false (by simp [Except.map]) hnotGap
    · rintro x rfl
      exact iff_of_false (by simp [Except.map]) (by simp [hzero])
    · rintro e rfl
      exact ⟨fun h => absurd h hnotGap, fun _ => rfl⟩
  · rw [collapse_of_inGap hgap]
    constructor
    · rintro x rfl
      exact iff_of_false (by simp) fun h => hgap.1.elim fun b hb => hb (h b)
    · rintro x rfl
      exact iff_of_true rfl hgap
    · rintro x rfl
      exact iff_of_false (by simp) fun h => h.elim fun b hb => hb (hgap.2 b)
    · rintro e rfl
      exact ⟨fun _ => rfl, fun h => absurd hgap h⟩
  · have hexponent := Dimension.isMeasurable_iff.mp hmeasurable
    have hnotGap : ¬ d.InGap := fun h => hexponent.elim fun b hb => hb (h.2 b)
    rw [collapse_eq_map_quantity hmeasurable]
    constructor
    · rintro x rfl
      refine iff_of_false (by simp [Except.map]) fun h => ?_
      exact hexponent.elim fun b hb => hb (h b ▸ dvd_zero 256)
    · rintro x rfl
      exact iff_of_false (by simp [Except.map]) hnotGap
    · rintro x rfl
      exact iff_of_true ⟨hmeasurable, rfl⟩ hexponent
    · rintro e rfl
      exact ⟨fun h => absurd h hnotGap, fun _ => rfl⟩

end Value

namespace Dimension

theorem isMeasurable_of_dvd {a b : Dimension} (ha : a.isMeasurable = true)
    (h : ∀ d, b.get d ∣ a.get d) : b.isMeasurable = true := by
  obtain ⟨d, hd⟩ := isMeasurable_iff.mp ha
  refine isMeasurable_iff.mpr ⟨d, fun hdvd => hd ?_⟩
  exact hdvd.trans (h d)

theorem isMeasurable_reciprocal {a : Dimension} (ha : a.isMeasurable = true) :
    a.reciprocal.isMeasurable = true := by
  apply isMeasurable_of_dvd ha
  intro d
  rw [get_reciprocal]
  exact Int.neg_dvd.mpr dvd_rfl

theorem isMeasurable_root {a b : Dimension} {n : Int} (ha : a.isMeasurable = true)
    (hb : a.root? n = some b) : b.isMeasurable = true := by
  apply isMeasurable_of_dvd ha
  intro d
  rw [(root?_eq_some_iff.mp hb).2 d]
  exact dvd_mul_right _ _

theorem exists_get_ne_zero {a : Dimension} (ha : a.isMeasurable = true) : ∃ d, a.get d ≠ 0 := by
  obtain ⟨d, hd⟩ := isMeasurable_iff.mp ha
  exact ⟨d, fun hzero => hd (hzero ▸ dvd_zero 256)⟩

theorem product_eq_zero_iff {a b : Dimension} :
    (∀ d, (a.product b).get d = 0) ↔ b = a.reciprocal := by
  constructor
  · intro h
    apply Exponents.ext_get
    intro d
    have hd := h d
    rw [get_product] at hd
    rw [get_reciprocal]
    omega
  · rintro rfl d
    simp

theorem quotient_eq_zero_iff {a b : Dimension} : (∀ d, (a.quotient b).get d = 0) ↔ a = b := by
  constructor
  · intro h
    apply Exponents.ext_get
    intro d
    have hd := h d
    rw [get_quotient] at hd
    omega
  · rintro rfl d
    simp

theorem power_eq_zero_iff {a : Dimension} {n : Int} (ha : a.isMeasurable = true) :
    (∀ d, (a.power n).get d = 0) ↔ n = 0 := by
  constructor
  · intro h
    obtain ⟨d, hd⟩ := exists_get_ne_zero ha
    have hprod := h d
    rw [get_power, mul_eq_zero] at hprod
    exact hprod.resolve_left hd
  · rintro rfl d
    simp

end Dimension

namespace Value

variable {α : Type}

theorem collapse_eq_number_iff {d : Dimension} {magnitude : Except Fault α} :
    (∃ x, collapse d magnitude = .ok (.number x)) ↔
      (∀ b, d.get b = 0) ∧ ∃ x, magnitude = .ok x := by
  constructor
  · rintro ⟨x, hx⟩
    rcases d.trichotomy with hzero | hgap | hmeasurable
    · rw [collapse_eq_map_number hzero] at hx
      cases magnitude with
      | error e => simp [Except.map] at hx
      | ok y => exact ⟨hzero, y, rfl⟩
    · rw [collapse_of_inGap hgap] at hx
      simp at hx
    · rw [collapse_eq_map_quantity hmeasurable] at hx
      cases magnitude <;> simp [Except.map] at hx
  · rintro ⟨hzero, x, rfl⟩
    exact ⟨x, collapse_eq_map_number hzero _⟩

/-- A result where a quantity is asked for: everything else is refused. -/
def orRefused : Except Fault (Value α) → Except Fault (Quantity α)
  | .ok (.quantity q) => .ok q
  | .ok (.number _) => .error .dimensionless
  | .error _ => .error .dimensionless

theorem orRefused_collapse (d : Dimension) (x : α) :
    orRefused (collapse d (.ok x)) = Quantity.build d (.ok x) := by
  cases hmeasurable : d.isMeasurable with
  | true =>
      rw [collapse_eq_map_quantity hmeasurable, Quantity.build_eq_map hmeasurable]
      rfl
  | false =>
      rw [Quantity.build_of_not_measurable hmeasurable]
      cases hzero : d.isDimensionless with
      | true =>
          rw [collapse_of_dimensionless hzero]
          rfl
      | false =>
          rw [collapse_of_not_measurable hzero hmeasurable]
          rfl

end Value

namespace Quantity

section Arithmetic

variable {α : Type} [Arithmetic α] (x y : Quantity α) (k : α)

theorem mul_eq_number_iff :
    (∃ m, x.mul y = .ok (.number m)) ↔
      y.dimension = x.dimension.reciprocal ∧
        ∃ m, Arithmetic.mul x.magnitude y.magnitude = .ok m := by
  unfold mul
  rw [Value.collapse_eq_number_iff, Dimension.product_eq_zero_iff]

theorem div_eq_number_iff :
    (∃ m, x.div y = .ok (.number m)) ↔
      x.dimension = y.dimension ∧ ∃ m, Arithmetic.div x.magnitude y.magnitude = .ok m := by
  unfold div
  rw [Value.collapse_eq_number_iff, Dimension.quotient_eq_zero_iff]

theorem div_eq_inTermsOf (h : x.dimension = y.dimension) :
    x.div y = (x.inTermsOf y).map .number := by
  unfold div inTermsOf sameDimension
  rw [if_pos h, Value.collapse_eq_map_number (Dimension.quotient_eq_zero_iff.mpr h)]

theorem invert_eq_map :
    invert k x = (Arithmetic.div k x.magnitude).map fun m =>
      .quantity ⟨x.dimension.reciprocal, m, Dimension.isMeasurable_reciprocal x.measurable⟩ :=
  Value.collapse_eq_map_quantity _ _

end Arithmetic

section Fractional

variable {α : Type} [Fractional α] (p q : Quantity α) (n : Int)

/-- The magnitude of a power takes the exponent in 32 bits. -/
def powerMagnitude : α :=
  integerPower Fractional.times Fractional.quotient Fractional.one p.magnitude
    (BoundedInt.wrap .int32 n).val

/-- The magnitude of a root takes the divisor in eight bits. -/
def rootMagnitude : α :=
  Fractional.pow p.magnitude
    (Fractional.quotient Fractional.one (Fractional.ofExponent (BoundedInt.wrap .int8 n)))

theorem nthRoot_eq_collapse {d : Dimension} (h : p.dimension.root? n = some d) :
    p.nthRoot n = Value.collapse d (.ok (p.rootMagnitude n)) := by
  unfold nthRoot
  rw [h]
  rfl

theorem nthPower_eq_number_iff : (∃ m, p.nthPower n = .ok (.number m)) ↔ n = 0 := by
  unfold nthPower
  rw [Value.collapse_eq_number_iff, Dimension.power_eq_zero_iff p.measurable]
  simp

theorem times_eq_orRefused : p.times q = Value.orRefused (p.mul q) := by
  unfold times mul
  rw [Fractional.mul_eq_times, Value.orRefused_collapse]

theorem per_eq_orRefused : p.per q = Value.orRefused (p.div q) := by
  unfold per div
  rw [Fractional.div_eq_quotient, Value.orRefused_collapse]

theorem recip_eq_orRefused : p.recip = Value.orRefused (invert Fractional.one p) := by
  unfold recip invert
  rw [Fractional.div_eq_quotient, Value.orRefused_collapse]

/-- A square is never a bare number: twice an exponent is zero only if the exponent is. -/
theorem square_ne_number (m : α) : p.square ≠ .ok (.number m) := by
  intro h
  obtain ⟨hopposite, -⟩ := (mul_eq_number_iff p p).mp ⟨m, h⟩
  obtain ⟨d, hd⟩ := Dimension.exists_get_ne_zero p.measurable
  have hexponent := congrArg (fun a : Dimension => a.get d) hopposite
  rw [Dimension.get_reciprocal] at hexponent
  omega

theorem cubed_eq_orRefused : p.cubed = Value.orRefused p.cube := by
  unfold cubed cube squared
  rw [times_eq_orRefused]
  change (Value.orRefused p.square >>= fun r => r.times p) =
    Value.orRefused (p.square >>= fun v => v.mul (.quantity p))
  cases hsquare : p.square with
  | error e => rfl
  | ok v =>
      cases v with
      | number m => exact absurd hsquare (p.square_ne_number m)
      | quantity r => exact r.times_eq_orRefused p

end Fractional

end Quantity

theorem Dimension.equals_iff {a b : Dimension} :
    a.equals b = true ↔ ∀ d, a.get d ≡ b.get d [ZMOD 256] := by
  unfold equals
  rw [decide_eq_true_iff]
  constructor
  · intro h d
    have hd := congrArg (fun v : ExponentVector => v.get d) h
    rw [get_vector, get_vector] at hd
    exact BoundedInt.wrap_eq_wrap_iff.mp hd
  · intro h
    apply Exponents.ext_get
    intro d
    rw [get_vector, get_vector]
    exact BoundedInt.wrap_eq_wrap_iff.mpr (h d)

namespace Quantity

/-- Which results collapse, which are refused and which are quantities, for every operation that
makes a new dimension. The builders differ from the operators only where these give no quantity:
there they refuse. -/
theorem exact_collapse {α β : Type} [Arithmetic α] [Fractional β] (x y : Quantity α) (k : α)
    (p q : Quantity β) (n : Int) :
    (CollapseLaw (x.dimension.product y.dimension) (Arithmetic.mul x.magnitude y.magnitude)
        (x.mul y) ∧
      CollapseLaw (x.dimension.quotient y.dimension) (Arithmetic.div x.magnitude y.magnitude)
        (x.div y) ∧
      CollapseLaw x.dimension.reciprocal (Arithmetic.div k x.magnitude) (invert k x) ∧
      CollapseLaw (p.dimension.power n) (.ok (p.powerMagnitude n)) (p.nthPower n) ∧
      ∀ d, p.dimension.root? n = some d → CollapseLaw d (.ok (p.rootMagnitude n)) (p.nthRoot n)) ∧
    ((∃ m, x.mul y = .ok (.number m)) ↔
      y.dimension = x.dimension.reciprocal ∧
        ∃ m, Arithmetic.mul x.magnitude y.magnitude = .ok m) ∧
    ((∃ m, x.div y = .ok (.number m)) ↔
      x.dimension = y.dimension ∧ ∃ m, Arithmetic.div x.magnitude y.magnitude = .ok m) ∧
    (x.dimension = y.dimension → x.div y = (x.inTermsOf y).map .number) ∧
    (∃ h, invert k x =
      (Arithmetic.div k x.magnitude).map fun m => .quantity ⟨x.dimension.reciprocal, m, h⟩) ∧
    (∀ d, p.dimension.root? n = some d →
      ∃ h, p.nthRoot n = .ok (.quantity ⟨d, p.rootMagnitude n, h⟩)) ∧
    ((∃ m, p.nthPower n = .ok (.number m)) ↔ n = 0) ∧
    (p.times q = Value.orRefused (p.mul q) ∧ p.per q = Value.orRefused (p.div q) ∧
      p.recip = Value.orRefused (invert Fractional.one p) ∧ p.squared = Value.orRefused p.square ∧
      p.cubed = Value.orRefused p.cube) ∧
    (x.dimension.equals y.dimension = true ↔
      ∀ d, x.dimension.get d ≡ y.dimension.get d [ZMOD 256]) := by
  refine ⟨⟨Value.collapse_law _ _, Value.collapse_law _ _, Value.collapse_law _ _,
    Value.collapse_law _ _, fun d hd => ?_⟩, x.mul_eq_number_iff y, x.div_eq_number_iff y,
    x.div_eq_inTermsOf y, ⟨_, x.invert_eq_map k⟩,
    fun d hd => ⟨Dimension.isMeasurable_root p.measurable hd, ?_⟩, p.nthPower_eq_number_iff n,
    ⟨p.times_eq_orRefused q, p.per_eq_orRefused q, p.recip_eq_orRefused,
    p.times_eq_orRefused p, p.cubed_eq_orRefused⟩, Dimension.equals_iff⟩
  · rw [p.nthRoot_eq_collapse n hd]
    exact Value.collapse_law _ _
  · rw [p.nthRoot_eq_collapse n hd]
    exact Value.collapse_eq_map_quantity _ _

/-- A length of the exponent 128: its square is refused, the ratio of two of them is a bare
number, and the square root is a quantity. -/
theorem exact_collapse_half_period :
    Quantity.mul ⟨⟨128, 0, 0, 0, 0, 0, 0⟩, BoundedInt.wrap .int32 6, rfl⟩
        ⟨⟨128, 0, 0, 0, 0, 0, 0⟩, BoundedInt.wrap .int32 3, rfl⟩ = .error .dimensionless ∧
      Quantity.div ⟨⟨128, 0, 0, 0, 0, 0, 0⟩, BoundedInt.wrap .int32 6, rfl⟩
        ⟨⟨128, 0, 0, 0, 0, 0, 0⟩, BoundedInt.wrap .int32 3, rfl⟩ =
        .ok (.number (BoundedInt.wrap .int32 2)) ∧
      ∃ x : Binary .double, Quantity.nthRoot ⟨⟨128, 0, 0, 0, 0, 0, 0⟩, Binary.ofInt 9, rfl⟩ 2 =
        .ok (.quantity ⟨⟨64, 0, 0, 0, 0, 0, 0⟩, x, rfl⟩) := by
  obtain ⟨⟨hmul, -⟩, -, -, hdiv, -, hroot, -⟩ :=
    exact_collapse ⟨⟨128, 0, 0, 0, 0, 0, 0⟩, BoundedInt.wrap .int32 6, rfl⟩
      ⟨⟨128, 0, 0, 0, 0, 0, 0⟩, BoundedInt.wrap .int32 3, rfl⟩ 0
      (⟨⟨128, 0, 0, 0, 0, 0, 0⟩, Binary.ofInt 9, rfl⟩ : Quantity (Binary .double))
      ⟨⟨128, 0, 0, 0, 0, 0, 0⟩, Binary.ofInt 9, rfl⟩ 2
  obtain ⟨_, hsqrt⟩ := hroot ⟨64, 0, 0, 0, 0, 0, 0⟩ rfl
  refine ⟨(hmul.refused_iff (BoundedInt.wrap .int32 18) rfl).mpr ?_, (hdiv rfl).trans rfl, _,
    hsqrt⟩
  refine ⟨⟨.length, by decide⟩, fun d => ?_⟩
  cases d <;> decide

end Quantity

end Metrology
