import Metrology.Proofs.VectorLaws

namespace Metrology

theorem BaseDimension.nodup_all : all.Nodup := by
  decide

theorem BaseDimension.pairwise_index_all : all.Pairwise fun a b => a.index < b.index := by
  decide

namespace ExponentVector

variable {u v w : ExponentVector} {d : BaseDimension} {ds : List BaseDimension}

section Base

theorem val_get_base (d e : BaseDimension) : ((base d).get e).val = if e = d then 1 else 0 := by
  unfold base Dimension.base
  rw [Dimension.get_vector, Exponents.get_ofFn]
  split <;> rfl

theorem eq_base_iff : v = base d ↔ ∀ e, (v.get e).val = if e = d then 1 else 0 := by
  constructor
  · rintro rfl e
    exact val_get_base d e
  · intro h
    refine Exponents.ext_get fun e => BoundedInt.ext ?_
    rw [h e, val_get_base]

theorem base_injective : Function.Injective base := by
  intro d e h
  have hone : ((base e).get d).val = 1 := by
    rw [← h, val_get_base, if_pos rfl]
  rw [val_get_base] at hone
  by_contra hne
  rw [if_neg hne] at hone
  exact absurd hone (by decide)

end Base

section Restriction

/-- The exponents of some base dimensions, where all others are zero. -/
def restrict (v : ExponentVector) (ds : List BaseDimension) : ExponentVector :=
  Exponents.ofFn fun d => if d ∈ ds then v.get d else 0

@[simp]
theorem get_restrict (v : ExponentVector) (ds : List BaseDimension) (d : BaseDimension) :
    (v.restrict ds).get d = if d ∈ ds then v.get d else 0 :=
  Exponents.get_ofFn _ d

theorem restrict_nil (v : ExponentVector) : v.restrict [] = dimensionless := by
  refine Exponents.ext_get fun d => ?_
  simp [dimensionless]

theorem restrict_of_perm_all (v : ExponentVector) (h : ds.Perm BaseDimension.all) :
    v.restrict ds = v := by
  refine Exponents.ext_get fun d => ?_
  rw [get_restrict, if_pos (h.mem_iff.mpr d.mem_all)]

theorem power_base (v : ExponentVector) (d : BaseDimension) :
    (base d).power (v.get d) = some (v.restrict [d]) := by
  rw [power_eq_some_iff]
  intro e
  rw [get_restrict, val_get_base]
  by_cases he : e = d
  · simp [he]
  · simp [he]

theorem restrict_product (hd : d ∉ ds) :
    (v.restrict ds).product (v.restrict [d]) = some (v.restrict (d :: ds)) := by
  rw [product_eq_some_iff]
  intro e
  simp only [get_restrict, List.mem_cons, List.not_mem_nil, or_false]
  by_cases he : e = d
  · simp [he, hd]
  · simp [he]

end Restriction

section Generation

/-- `u` times the power of one base dimension in `v`. -/
def timesBasePower (v u : ExponentVector) (d : BaseDimension) : Option ExponentVector :=
  ((base d).power (v.get d)).bind u.product

/-- `u` over the power of one base dimension in `v`. -/
def overBasePower (v u : ExponentVector) (d : BaseDimension) : Option ExponentVector :=
  ((base d).power (v.get d)).bind u.quotient

theorem timesBasePower_eq_some_iff :
    v.timesBasePower u d = some w ↔ v.overBasePower w d = some u := by
  unfold timesBasePower overBasePower
  rw [power_base, Option.bind_some, Option.bind_some]
  exact product_eq_some_iff_quotient_eq_some

theorem overBasePower_restrict (hd : d ∉ ds) :
    v.overBasePower (v.restrict (d :: ds)) d = some (v.restrict ds) := by
  rw [← timesBasePower_eq_some_iff, timesBasePower, power_base, Option.bind_some]
  exact restrict_product hd

/-- The base dimensions that a vector is cut down to are used up one after the other. -/
theorem foldlM_overBasePower_restrict (h : ds.Nodup) :
    ds.foldlM v.overBasePower (v.restrict ds) = some dimensionless := by
  induction ds with
  | nil => exact congrArg some v.restrict_nil
  | cons d ds ih =>
      rw [List.nodup_cons] at h
      rw [List.foldlM_cons, overBasePower_restrict h.1]
      exact ih h.2

/-- Multiplying up is undone by dividing out in the opposite order. -/
theorem foldlM_timesBasePower_eq_some_iff :
    ds.foldlM v.timesBasePower u = some w ↔ ds.reverse.foldlM v.overBasePower w = some u := by
  induction ds generalizing u with
  | nil => simp [eq_comm]
  | cons d ds ih =>
      -- What is multiplied first is divided out last.
      calc
        (d :: ds).foldlM v.timesBasePower u = some w
            ↔ ∃ u', v.timesBasePower u d = some u' ∧ ds.foldlM v.timesBasePower u' = some w := by
          rw [List.foldlM_cons]
          exact Option.bind_eq_some_iff
        _ ↔ ∃ u',
          ds.reverse.foldlM v.overBasePower w = some u' ∧ v.overBasePower u' d = some u := by
          refine exists_congr fun u' => ?_
          rw [timesBasePower_eq_some_iff, ih, and_comm]
        _ ↔ (d :: ds).reverse.foldlM v.overBasePower w = some u := by
          rw [List.reverse_cons, List.foldlM_append]
          simp only [List.foldlM_cons, List.foldlM_nil, bind_pure]
          exact Option.bind_eq_some_iff.symm

theorem foldlM_overBasePower_of_perm_all (v : ExponentVector) (h : ds.Perm BaseDimension.all) :
    ds.foldlM v.overBasePower v = some dimensionless := by
  have hrun := foldlM_overBasePower_restrict (v := v) (h.nodup_iff.mpr BaseDimension.nodup_all)
  rwa [restrict_of_perm_all v h] at hrun

/-- The base vectors generate every vector. In every order of the base dimensions, their powers by
the exponents of a vector multiply up to it, and divide out of it to nothing, without a step that
leaves the range. -/
theorem base_powers_generate (v : ExponentVector) (order : List BaseDimension)
    (h : order.Perm BaseDimension.all) :
    order.foldlM (fun u d => ((base d).power (v.get d)).bind u.product) dimensionless = some v ∧
    order.foldlM (fun u d => ((base d).power (v.get d)).bind u.quotient) v =
      some dimensionless := by
  constructor
  · have hopposite : order.reverse.Perm BaseDimension.all := (List.reverse_perm order).trans h
    exact foldlM_timesBasePower_eq_some_iff.mpr (foldlM_overBasePower_of_perm_all v hopposite)
  · exact foldlM_overBasePower_of_perm_all v h

/-- The ends of the range, from the last base dimension to the first. -/
theorem base_powers_generate_extremes :
    BaseDimension.all.reverse.Perm BaseDimension.all ∧
    BaseDimension.all.reverse.foldlM (fun u d =>
        ((base d).power ((Dimension.vector ⟨-128, 127, 0, -128, 1, 127, -1⟩).get d)).bind
          u.product) dimensionless =
      some (Dimension.vector ⟨-128, 127, 0, -128, 1, 127, -1⟩) ∧
    BaseDimension.all.reverse.foldlM (fun u d =>
        ((base d).power ((Dimension.vector ⟨-128, 127, 0, -128, 1, 127, -1⟩).get d)).bind
          u.quotient)
        (Dimension.vector ⟨-128, 127, 0, -128, 1, 127, -1⟩) =
      some dimensionless :=
  ⟨List.reverse_perm _, base_powers_generate _ _ (List.reverse_perm _)⟩

end Generation

section Support

/-- The base dimensions with a nonzero exponent, in base order. -/
def support (v : ExponentVector) : List BaseDimension :=
  BaseDimension.all.filter fun d => v.get d != 0

theorem mem_support_iff : d ∈ v.support ↔ v.get d ≠ 0 := by
  simp [support, d.mem_all]

theorem pairwise_index_support (v : ExponentVector) :
    v.support.Pairwise fun a b => a.index < b.index :=
  BaseDimension.pairwise_index_all.sublist List.filter_sublist

theorem support_base (d : BaseDimension) : (base d).support = [d] := by
  cases d <;> decide

theorem foldl_val_support (v : ExponentVector) (total : Int) :
    v.support.foldl (fun total d => total + (v.get d).val) total =
      BaseDimension.all.foldl (fun total d => total + (v.get d).val) total := by
  unfold support
  rw [List.foldl_filter]
  congr 1
  funext total d
  by_cases hd : v.get d = 0
  · simp [hd]
  · simp [hd]

theorem isBase_iff_support :
    v.isBase = true ↔
      v.support.length = 1 ∧ v.support.foldl (fun total d => total + (v.get d).val) 0 = 1 := by
  rw [foldl_val_support]
  simp [isBase, support]

theorem eq_base_of_support (hsupport : v.support = [d]) (hone : (v.get d).val = 1) :
    v = base d := by
  rw [eq_base_iff]
  intro e
  by_cases he : e = d
  · rw [he, if_pos rfl, hone]
  · have hzero : v.get e = 0 := by
      by_contra hne
      have hmem := mem_support_iff.mpr hne
      rw [hsupport, List.mem_singleton] at hmem
      exact he hmem
    rw [if_neg he, hzero, BoundedInt.val_zero]

theorem isBase_iff_exists_eq_base : v.isBase = true ↔ ∃ d, v = base d := by
  rw [isBase_iff_support]
  constructor
  · rintro ⟨hcount, hsum⟩
    obtain ⟨d, hd⟩ := List.length_eq_one_iff.mp hcount
    -- The only exponent that is not zero is the whole sum.
    rw [hd, List.foldl_cons, List.foldl_nil, Int.zero_add] at hsum
    exact ⟨d, eq_base_of_support hd hsum⟩
  · rintro ⟨d, rfl⟩
    simp [support_base, val_get_base]

end Support

end ExponentVector

end Metrology
