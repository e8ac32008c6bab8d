import Mathlib.Algebra.Order.Group.Int
import Mathlib.Tactic.ByContra
import Metrology.Number.Basic
import Metrology.Quantity.Arithmetic

/-!
Sums of integer quantities and the order of their terms. Every partial sum is checked, so the
order can decide whether there is a result; but every result is the exact total. If the total is
in range, then some order stays in range all the way: a term against the sign of the partial sum
never leaves it, and once there is no such term the partial sums go straight to the total.
-/

namespace Metrology

namespace Quantity

variable {k : IntegerKind} {d : Dimension} {q r s : Quantity (BoundedInt k)}
  {qs qs' : List (Quantity (BoundedInt k))}

/-- The exact sum of the magnitudes. -/
def total : List (Quantity (BoundedInt k)) → Int
  | [] => 0
  | q :: qs => q.magnitude.val + total qs

@[simp]
theorem total_nil : total ([] : List (Quantity (BoundedInt k))) = 0 :=
  rfl

@[simp]
theorem total_cons (q : Quantity (BoundedInt k)) (qs : List (Quantity (BoundedInt k))) :
    total (q :: qs) = q.magnitude.val + total qs :=
  rfl

theorem total_perm (h : qs.Perm qs') : total qs = total qs' := by
  induction h with
  | nil => rfl
  | cons q h ih => simp [ih]
  | swap q r qs =>
      simp only [total_cons]
      omega
  | trans h h' ih ih' => exact ih.trans ih'

theorem total_nonneg (h : ∀ q ∈ qs, 0 ≤ q.magnitude.val) : 0 ≤ total qs := by
  induction qs with
  | nil => simp
  | cons q qs ih =>
      have hq := h q (by simp)
      have hqs := ih fun r hr => h r (by simp [hr])
      rw [total_cons]
      omega

theorem total_nonpos (h : ∀ q ∈ qs, q.magnitude.val ≤ 0) : total qs ≤ 0 := by
  induction qs with
  | nil => simp
  | cons q qs ih =>
      have hq := h q (by simp)
      have hqs := ih fun r hr => h r (by simp [hr])
      rw [total_cons]
      omega

section Step

/-- One addition gives the exact sum, or there is none in range. -/
theorem add_cases (hr : r.dimension = q.dimension) :
    (∃ s, q.add r = .ok s ∧ s.dimension = q.dimension ∧
      s.magnitude.val = q.magnitude.val + r.magnitude.val) ∨
    q.add r = .error (.overflow .add) ∧
      ¬ (k.min ≤ q.magnitude.val + r.magnitude.val ∧
        q.magnitude.val + r.magnitude.val ≤ k.max) := by
  have hadd : q.add r =
      q.withMagnitude (BoundedInt.orOverflow .add (q.magnitude.add? r.magnitude)) :=
    if_pos hr.symm
  cases hsum : q.magnitude.add? r.magnitude with
  | some x =>
      left
      refine ⟨⟨q.dimension, x, q.measurable⟩, ?_, rfl, BoundedInt.add?_eq_some_iff.mp hsum⟩
      rw [hadd, hsum]
      rfl
  | none =>
      right
      have hrange := BoundedInt.ofInt?_eq_none_iff.mp hsum
      refine ⟨?_, by omega⟩
      rw [hadd, hsum]
      rfl

theorem exists_add (hr : r.dimension = q.dimension)
    (hrange : k.min ≤ q.magnitude.val + r.magnitude.val ∧
      q.magnitude.val + r.magnitude.val ≤ k.max) :
    ∃ s, q.add r = .ok s ∧ s.dimension = q.dimension ∧
      s.magnitude.val = q.magnitude.val + r.magnitude.val :=
  (add_cases hr).resolve_right fun h => h.2 hrange

/-- Some term can be added next, as long as all of them together can be. -/
theorem exists_next (hqs : qs ≠ [])
    (hrange : k.min ≤ q.magnitude.val + total qs ∧ q.magnitude.val + total qs ≤ k.max) :
    ∃ r ∈ qs,
      k.min ≤ q.magnitude.val + r.magnitude.val ∧ q.magnitude.val + r.magnitude.val ≤ k.max := by
  have hmin := q.magnitude.min_le
  have hmax := q.magnitude.le_max
  obtain ⟨first, rest, rfl⟩ := List.exists_cons_of_ne_nil hqs
  rw [total_cons] at hrange
  by_cases hsign : 0 ≤ q.magnitude.val
  · by_cases hagainst : ∃ r ∈ first :: rest, r.magnitude.val ≤ 0
    · obtain ⟨r, hr, hle⟩ := hagainst
      have := r.magnitude.min_le
      exact ⟨r, hr, by omega, by omega⟩
    · push Not at hagainst
      have hfirst := hagainst first (by simp)
      have hrest := total_nonneg fun r hr => (hagainst r (List.mem_cons_of_mem _ hr)).le
      exact ⟨first, by simp, by omega, by omega⟩
  · by_cases hagainst : ∃ r ∈ first :: rest, 0 ≤ r.magnitude.val
    · obtain ⟨r, hr, hle⟩ := hagainst
      have := r.magnitude.le_max
      exact ⟨r, hr, by omega, by omega⟩
    · push Not at hagainst
      have hfirst := hagainst first (by simp)
      have hrest := total_nonpos fun r hr => (hagainst r (List.mem_cons_of_mem _ hr)).le
      exact ⟨first, by simp, by omega, by omega⟩

end Step

section Run

/-- A run from a partial sum ends in the exact total, or it overflows. -/
theorem foldlM_add_cases (hqs : ∀ r ∈ qs, r.dimension = q.dimension) :
    (∃ s, qs.foldlM add q = .ok s ∧ s.dimension = q.dimension ∧
      s.magnitude.val = q.magnitude.val + total qs) ∨
    qs.foldlM add q = .error (.overflow .add) := by
  induction qs generalizing q with
  | nil => exact .inl ⟨q, rfl, rfl, by simp⟩
  | cons r qs ih =>
      rw [List.foldlM_cons]
      rcases add_cases (hqs r (by simp)) with ⟨t, hadd, hdimension, hvalue⟩ | ⟨hadd, -⟩
      · have hqs' : ∀ r ∈ qs, r.dimension = t.dimension := fun r' hr' =>
          (hqs r' (List.mem_cons_of_mem _ hr')).trans hdimension.symm
        rw [hadd]
        rcases ih hqs' with ⟨s, hrun, hdimension', hvalue'⟩ | herror
        · refine .inl ⟨s, hrun, hdimension'.trans hdimension, ?_⟩
          rw [hvalue', hvalue, total_cons]
          omega
        · exact .inr herror
      · rw [hadd]
        exact .inr rfl

/-- Without a term below zero no partial sum exceeds the total. -/
theorem exists_foldlM_add_of_nonneg (hqs : ∀ r ∈ qs, r.dimension = q.dimension)
    (hnonneg : ∀ r ∈ qs, 0 ≤ r.magnitude.val) (hmax : q.magnitude.val + total qs ≤ k.max) :
    ∃ s, qs.foldlM add q = .ok s := by
  induction qs generalizing q with
  | nil => exact ⟨q, rfl⟩
  | cons r qs ih =>
      rw [total_cons] at hmax
      have hmin := q.magnitude.min_le
      have hr := hnonneg r (by simp)
      have hnonneg' : ∀ r ∈ qs, 0 ≤ r.magnitude.val := fun r' hr' =>
        hnonneg r' (List.mem_cons_of_mem _ hr')
      have htotal := total_nonneg hnonneg'
      obtain ⟨t, hadd, hdimension, hvalue⟩ := exists_add (hqs r (by simp)) ⟨by omega, by omega⟩
      have hqs' : ∀ r ∈ qs, r.dimension = t.dimension := fun r' hr' =>
        (hqs r' (List.mem_cons_of_mem _ hr')).trans hdimension.symm
      obtain ⟨s, hrun⟩ := ih hqs' hnonneg' (by omega)
      refine ⟨s, ?_⟩
      rw [List.foldlM_cons, hadd]
      exact hrun

/-- If the total is in range, then the terms have an order in which every partial sum is. -/
theorem exists_perm_foldlM_add (hqs : ∀ r ∈ qs, r.dimension = q.dimension)
    (hrange : k.min ≤ q.magnitude.val + total qs ∧ q.magnitude.val + total qs ≤ k.max) :
    ∃ qs', qs.Perm qs' ∧ ∃ s, qs'.foldlM add q = .ok s := by
  -- The induction is on the number of terms, because the next one can stand anywhere in the list.
  induction hlength : qs.length generalizing q qs with
  | zero =>
      obtain rfl := List.eq_nil_of_length_eq_zero hlength
      exact ⟨[], .refl _, q, rfl⟩
  | succ n ih =>
      have hne : qs ≠ [] := by
        rintro rfl
        simp at hlength
      obtain ⟨r, hr, hnext⟩ := exists_next hne hrange
      obtain ⟨t, hadd, hdimension, hvalue⟩ := exists_add (hqs r hr) hnext
      obtain ⟨before, after, rfl⟩ := List.append_of_mem hr
      have hperm : (before ++ r :: after).Perm (r :: (before ++ after)) := List.perm_middle
      have htotal := total_perm hperm
      rw [total_cons] at htotal
      have hrest : ∀ r' ∈ before ++ after, r'.dimension = t.dimension := by
        intro r' hr'
        refine (hqs r' (hperm.mem_iff.mpr ?_)).trans hdimension.symm
        exact List.mem_cons_of_mem _ hr'
      have hlength' : (before ++ after).length = n := by
        have := hperm.length_eq
        simp only [List.length_cons] at this
        omega
      obtain ⟨more, hmore, s, hrun⟩ := ih hrest ⟨by omega, by omega⟩ hlength'
      refine ⟨r :: more, hperm.trans (hmore.cons r), s, ?_⟩
      rw [List.foldlM_cons, hadd]
      exact hrun

end Run

section Sum

theorem sum_eq_foldlM (hd : d.isMeasurable = true) (qs : List (Quantity (BoundedInt k))) :
    sum d qs = qs.foldlM add ⟨d, 0, hd⟩ := by
  unfold sum zero
  rw [build_of_measurable hd]
  rfl

theorem eq_of_dimension_eq_of_val_eq (hdimension : q.dimension = r.dimension)
    (hvalue : q.magnitude.val = r.magnitude.val) : q = r := by
  obtain ⟨d, x, hd⟩ := q
  obtain ⟨d', y, hd'⟩ := r
  obtain rfl : d = d' := hdimension
  obtain rfl : x = y := BoundedInt.ext hvalue
  rfl

theorem sumOf_eq_sum {ι : Type} (d : Dimension) (read : ι → Quantity (BoundedInt k))
    (references : List ι) : sumOf d read references = sum d (references.map read) := by
  unfold sumOf sum
  simp only [List.foldlM_map]

variable (hd : d.isMeasurable = true) (hqs : ∀ q ∈ qs, q.dimension = d)
include hd hqs

theorem sum_cases :
    (∃ s, sum d qs = .ok s ∧ s.dimension = d ∧ s.magnitude.val = total qs) ∨
      sum d qs = .error (.overflow .add) := by
  rw [sum_eq_foldlM hd]
  have h := foldlM_add_cases (q := ⟨d, 0, hd⟩) hqs
  simpa using h

theorem of_sum_eq_ok (h : sum d qs = .ok s) : s.dimension = d ∧ s.magnitude.val = total qs := by
  rcases sum_cases hd hqs with ⟨s', hsum, hs⟩ | hsum
  · rw [h] at hsum
    obtain rfl := Except.ok.inj hsum
    exact hs
  · rw [h] at hsum
    cases hsum

theorem exists_perm_sum_iff :
    (∃ qs' s, qs.Perm qs' ∧ sum d qs' = .ok s) ↔ k.min ≤ total qs ∧ total qs ≤ k.max := by
  constructor
  · rintro ⟨qs', s, hperm, hsum⟩
    have hqs' : ∀ q ∈ qs', q.dimension = d := fun q hq => hqs q (hperm.mem_iff.mpr hq)
    obtain ⟨-, hvalue⟩ := of_sum_eq_ok hd hqs' hsum
    rw [total_perm hperm, ← hvalue]
    exact ⟨s.magnitude.min_le, s.magnitude.le_max⟩
  · intro hrange
    obtain ⟨qs', hperm, s, hrun⟩ :=
      exists_perm_foldlM_add (q := ⟨d, 0, hd⟩) hqs (by simpa using hrange)
    refine ⟨qs', s, hperm, ?_⟩
    rw [sum_eq_foldlM hd]
    exact hrun

theorem sum_eq_error_iff_of_unsigned (hk : k.signed = false) (e : Fault) :
    sum d qs = .error e ↔ e = .overflow .add ∧ k.max < total qs := by
  have hnonneg : ∀ q ∈ qs, 0 ≤ q.magnitude.val := by
    intro q _
    have hmin := q.magnitude.min_le
    simpa [IntegerKind.min, hk] using hmin
  constructor
  · intro herror
    refine ⟨?_, ?_⟩
    · rcases sum_cases hd hqs with ⟨s, hsum, -⟩ | hsum
      · rw [herror] at hsum
        cases hsum
      · rw [herror] at hsum
        exact Except.error.inj hsum
    · by_contra! hle
      obtain ⟨s, hrun⟩ :=
        exists_foldlM_add_of_nonneg (q := ⟨d, 0, hd⟩) hqs hnonneg (by simpa using hle)
      rw [sum_eq_foldlM hd, hrun] at herror
      cases herror
  · rintro ⟨rfl, hlt⟩
    rcases sum_cases hd hqs with ⟨s, -, -, hvalue⟩ | hsum
    · have := s.magnitude.le_max
      omega
    · exact hsum

theorem sum_perm_of_unsigned (hk : k.signed = false) (hperm : qs.Perm qs') :
    sum d qs' = sum d qs := by
  have hqs' : ∀ q ∈ qs', q.dimension = d := fun q hq => hqs q (hperm.mem_iff.mpr hq)
  cases hsum : sum d qs with
  | error e =>
      rw [sum_eq_error_iff_of_unsigned hd hqs hk] at hsum
      rwa [sum_eq_error_iff_of_unsigned hd hqs' hk, ← total_perm hperm]
  | ok s =>
      obtain ⟨hdimension, hvalue⟩ := of_sum_eq_ok hd hqs hsum
      rcases sum_cases hd hqs' with ⟨t, hsum', hdimension', hvalue'⟩ | hsum'
      · rw [hsum', eq_of_dimension_eq_of_val_eq (hdimension'.trans hdimension.symm)
          (hvalue'.trans ((total_perm hperm).symm.trans hvalue.symm))]
      · have hmax := s.magnitude.le_max
        have hover := ((sum_eq_error_iff_of_unsigned hd hqs' hk _).mp hsum').2
        rw [← total_perm hperm, ← hvalue] at hover
        omega

end Sum

/-- Without a sign the sum overflows exactly if the total is too large, whatever the order. With a
sign all orders that give a result give the same one, the exact total, and there is such an order
exactly if the total is in range. Summing by reference makes no difference. -/
theorem sum_reordered (hd : d.isMeasurable = true) (hqs : ∀ q ∈ qs, q.dimension = d) :
    (k.signed = false →
      (∀ e, sum d qs = .error e ↔ e = .overflow .add ∧ k.max < total qs) ∧
      ∀ qs', qs.Perm qs' → sum d qs' = sum d qs) ∧
    (k.signed = true →
      (∀ qs₁ qs₂ s t, qs.Perm qs₁ → qs.Perm qs₂ → sum d qs₁ = .ok s → sum d qs₂ = .ok t →
        s = t ∧ s.magnitude.val = total qs) ∧
      ((∃ qs' s, qs.Perm qs' ∧ sum d qs' = .ok s) ↔ k.min ≤ total qs ∧ total qs ≤ k.max)) ∧
    ∀ (ι : Type) (read : ι → Quantity (BoundedInt k)) (references : List ι),
      sumOf d read references = sum d (references.map read) := by
  refine ⟨fun hk =>
    ⟨sum_eq_error_iff_of_unsigned hd hqs hk, fun qs' => sum_perm_of_unsigned hd hqs hk⟩,
    fun _ => ⟨?_, exists_perm_sum_iff hd hqs⟩, fun ι => sumOf_eq_sum d⟩
  intro qs₁ qs₂ s t hperm₁ hperm₂ hs ht
  have hqs₁ : ∀ q ∈ qs₁, q.dimension = d := fun q hq => hqs q (hperm₁.mem_iff.mpr hq)
  have hqs₂ : ∀ q ∈ qs₂, q.dimension = d := fun q hq => hqs q (hperm₂.mem_iff.mpr hq)
  obtain ⟨hds, hvs⟩ := of_sum_eq_ok hd hqs₁ hs
  obtain ⟨hdt, hvt⟩ := of_sum_eq_ok hd hqs₂ ht
  rw [← total_perm hperm₁] at hvs
  rw [← total_perm hperm₂] at hvt
  exact ⟨eq_of_dimension_eq_of_val_eq (hds.trans hdt.symm) (hvs.trans hvt.symm), hvs⟩

def lengths (k : IntegerKind) (magnitudes : List Int) : List (Quantity (BoundedInt k)) :=
  magnitudes.map fun n => ⟨Dimension.base .length, BoundedInt.wrap k n, rfl⟩

/-- Three lengths that overflow in the given order but not in every one, and two that always
do. -/
theorem sum_reordered_lengths :
    sum (Dimension.base .length) (lengths .int8 [100, 100, -100]) = .error (.overflow .add) ∧
    (∃ qs' s, (lengths .int8 [100, 100, -100]).Perm qs' ∧
      sum (Dimension.base .length) qs' = .ok s) ∧
    ∀ qs', (lengths ⟨false, .w8⟩ [200, 56]).Perm qs' →
      sum (Dimension.base .length) qs' = .error (.overflow .add) := by
  have hlengths : ∀ k magnitudes, ∀ q ∈ lengths k magnitudes,
      q.dimension = Dimension.base .length := by
    intro k magnitudes q hq
    obtain ⟨n, -, rfl⟩ := List.mem_map.mp hq
    rfl
  have hsigned := (sum_reordered rfl (hlengths .int8 [100, 100, -100])).2.1 rfl
  have hunsigned := (sum_reordered rfl (hlengths ⟨false, .w8⟩ [200, 56])).1 rfl
  refine ⟨rfl, hsigned.2.mpr (by decide), fun qs' hperm => ?_⟩
  rw [hunsigned.2 qs' hperm, hunsigned.1]
  exact ⟨rfl, by decide⟩

end Quantity

end Metrology
