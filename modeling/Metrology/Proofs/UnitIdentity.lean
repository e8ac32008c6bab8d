import Mathlib.Data.List.Nodup
import Metrology.Proofs.UnitText

namespace Metrology

namespace UnitInfo

theorem distinguishes_name : Distinguishes name := by
  constructor <;> decide

theorem nodup_dimension_registry : (registry.map dimension).Nodup := by
  decide

theorem filter_dimension_registry (v : ExponentVector) :
    registry.filter (fun info => info.dimension = v) = (lookup v).toList := by
  have hnodup : ((registry.filter fun info => info.dimension = v).map dimension).Nodup :=
    nodup_dimension_registry.sublist (List.filter_sublist.map dimension)
  have hdimension : ∀ info ∈ registry.filter (fun info => info.dimension = v),
      info.dimension = v := by
    intro info hinfo
    simpa using (List.mem_filter.mp hinfo).2
  have hlookup : (registry.filter fun info => info.dimension = v).head? = lookup v :=
    List.head?_filter
  rw [← hlookup]
  cases hentries : registry.filter (fun info => info.dimension = v) with
  | nil => rfl
  | cons a rest =>
      cases rest with
      | nil => rfl
      | cons b rest =>
          -- A second entry would repeat the dimension of the first.
          rw [hentries] at hnodup hdimension
          have hab : a.dimension = b.dimension :=
            (hdimension a (by simp)).trans (hdimension b (by simp)).symm
          simp [hab] at hnodup

/-- In every order of the registry, the entries of a dimension are the one that is looked up. -/
theorem filter_dimension_of_perm {entries : List UnitInfo} (h : entries.Perm registry)
    (v : ExponentVector) :
    entries.filter (fun info => info.dimension = v) = (lookup v).toList := by
  have hperm := h.filter fun info => info.dimension = v
  rw [filter_dimension_registry] at hperm
  cases hv : lookup v with
  | none =>
      rw [hv] at hperm
      exact hperm.eq_nil
  | some info =>
      rw [hv] at hperm
      exact List.perm_singleton.mp hperm

theorem find?_dimension_of_perm {entries : List UnitInfo} (h : entries.Perm registry)
    (v : ExponentVector) : entries.find? (fun info => info.dimension = v) = lookup v := by
  rw [← List.head?_filter, filter_dimension_of_perm h]
  cases lookup v <;> rfl

end UnitInfo

namespace ExponentVector

theorem composed_dimensionless : dimensionless.composed = "" := by
  decide

theorem composed_eq_empty_iff {v : ExponentVector} : v.composed = "" ↔ v = dimensionless := by
  rw [← composed_dimensionless]
  exact composed_injective.eq_iff

theorem composed_ne_empty {v : ExponentVector} (hv : UnitInfo.lookup v = none) :
    v.composed ≠ "" := by
  intro h
  have hone : UnitInfo.lookup dimensionless ≠ none := by
    decide
  exact hone (composed_eq_empty_iff.mp h ▸ hv)

theorem labelled_ne_empty {label : UnitInfo → String}
    (hlabel : ∀ info ∈ UnitInfo.registry, label info ≠ "") (v : ExponentVector) :
    labelled label v ≠ "" := by
  cases hv : UnitInfo.lookup v with
  | some info =>
      rw [labelled_of_lookup hv]
      exact hlabel info (UnitInfo.mem_registry_of_lookup hv).1
  | none =>
      rw [labelled_of_not_registered hv]
      exact composed_ne_empty hv

theorem symbol_ne_empty (v : ExponentVector) : v.symbol ≠ "" := by
  rw [symbol_eq_labelled]
  exact labelled_ne_empty (by decide) v

theorem name_eq_labelled (v : ExponentVector) : v.name = labelled UnitInfo.name v := by
  unfold name labelled
  cases UnitInfo.lookup v <;> rfl

theorem name_injective : Function.Injective name := by
  intro v w h
  rw [name_eq_labelled, name_eq_labelled] at h
  exact labelled_injective UnitInfo.distinguishes_name h

theorem name_ne_empty (v : ExponentVector) : v.name ≠ "" := by
  rw [name_eq_labelled]
  exact labelled_ne_empty (by decide) v

/-- Symbol, name and composed text are each equal only for equal vectors, and the first two are
never empty. In every order of the registry a vector has no entry but the one that is looked
up. -/
theorem texts_identify_dimension (v w : ExponentVector) :
    (v.symbol = w.symbol ↔ v = w) ∧
    (v.name = w.name ↔ v = w) ∧
    (v.composed = w.composed ↔ v = w) ∧
    v.symbol ≠ "" ∧ v.name ≠ "" ∧
    ∀ entries : List UnitInfo, entries.Perm UnitInfo.registry →
      entries.filter (fun info => info.dimension = v) = (UnitInfo.lookup v).toList ∧
      entries.find? (fun info => info.dimension = v) = UnitInfo.lookup v := by
  refine ⟨symbol_injective.eq_iff, name_injective.eq_iff, composed_injective.eq_iff,
    v.symbol_ne_empty, v.name_ne_empty, ?_⟩
  intro entries h
  exact ⟨UnitInfo.filter_dimension_of_perm h v, UnitInfo.find?_dimension_of_perm h v⟩

/-- Force and pressure have different symbols, and force has the one entry of the registry that it
has in the reverse order. -/
theorem texts_identify_dimension_reversed :
    symbol (Dimension.vector ⟨1, 1, -2, 0, 0, 0, 0⟩) ≠
      symbol (Dimension.vector ⟨-1, 1, -2, 0, 0, 0, 0⟩) ∧
    UnitInfo.registry.reverse.find?
        (fun info => info.dimension = Dimension.vector ⟨1, 1, -2, 0, 0, 0, 0⟩) =
      some (UnitInfo.ofNamed .newton) := by
  have h := texts_identify_dimension (Dimension.vector ⟨1, 1, -2, 0, 0, 0, 0⟩)
    (Dimension.vector ⟨-1, 1, -2, 0, 0, 0, 0⟩)
  obtain ⟨hsymbol, -, -, -, -, hentries⟩ := h
  refine ⟨fun heq => absurd (hsymbol.mp heq) (by decide), ?_⟩
  exact (hentries _ (List.reverse_perm _)).2.trans (by decide)

end ExponentVector

end Metrology
