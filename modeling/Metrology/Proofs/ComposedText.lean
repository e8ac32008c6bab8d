import Metrology.Proofs.BaseVectors
import Metrology.Proofs.UnitIdentity

namespace Metrology

/-- The words of a text, with one space between two of them. -/
def spacedWords (text : String) : List (List Char) :=
  if text = "" then [] else text.toList.splitOn ' '

namespace UnitInfo

theorem lookup_eq_none_iff {v : ExponentVector} :
    lookup v = none ↔ ∀ info ∈ registry, info.dimension ≠ v := by
  simp [lookup]

theorem exists_lookup_base (d : BaseDimension) :
    ∃ info, lookup (ExponentVector.base d) = some info ∧
      info.symbol = d.symbol ∧ info.name = d.unitName := by
  cases d <;> exact ⟨_, rfl, rfl, rfl⟩

end UnitInfo

namespace ExponentVector

section Listing

/-- The powers of a vector are its nonzero exponents, in base order. -/
structure HasPowers (v : ExponentVector) (powers : List (BaseDimension × Int)) : Prop where
  ordered : powers.Pairwise fun p q => p.1.index < q.1.index
  mem_iff : ∀ d n, (d, n) ∈ powers ↔ (v.get d).val = n ∧ n ≠ 0

theorem hasPowers_support (v : ExponentVector) :
    v.HasPowers (v.support.map fun d => (d, (v.get d).val)) where
  ordered := v.pairwise_index_support.map _ fun _ _ h => h
  mem_iff d n := by
    have hzero : v.get d = 0 ↔ (v.get d).val = 0 := BoundedInt.ext_iff
    constructor
    · intro h
      obtain ⟨e, he, heq⟩ := List.mem_map.mp h
      obtain ⟨rfl, rfl⟩ := Prod.mk.inj heq
      exact ⟨rfl, fun hn => mem_support_iff.mp he (hzero.mpr hn)⟩
    · rintro ⟨rfl, hn⟩
      exact List.mem_map.mpr ⟨d, mem_support_iff.mpr fun h => hn (hzero.mp h), rfl⟩

theorem words_eq_map_support (v : ExponentVector) :
    v.words = v.support.map fun d => d.symbol.toList ++ exponentMark (v.get d).val :=
  List.map_congr_left fun d _ => toList_factorText d _

theorem spacedWords_composed (v : ExponentVector) : spacedWords v.composed = v.words := by
  unfold spacedWords
  split
  · rename_i hempty
    rw [composed_eq_empty_iff.mp hempty]
    rfl
  · rename_i hne
    refine splitOn_composed fun hv => hne ?_
    rw [← String.toList_inj, toList_composed, hv]
    rfl

/-- The composed text has one word for each power: the symbol, and a mark unless the exponent is
one. -/
theorem exists_hasPowers_spacedWords (v : ExponentVector) :
    ∃ powers, v.HasPowers powers ∧
      spacedWords v.composed = powers.map fun p => p.1.symbol.toList ++ exponentMark p.2 := by
  refine ⟨_, v.hasPowers_support, ?_⟩
  rw [spacedWords_composed, words_eq_map_support, List.map_map]
  rfl

end Listing

section Labels

theorem symbol_base (d : BaseDimension) : (base d).symbol = d.symbol := by
  obtain ⟨info, hinfo, hsymbol, -⟩ := UnitInfo.exists_lookup_base d
  rw [symbol_eq_labelled, labelled_of_lookup hinfo, hsymbol]

theorem name_base (d : BaseDimension) : (base d).name = d.unitName := by
  obtain ⟨info, hinfo, -, hname⟩ := UnitInfo.exists_lookup_base d
  rw [name_eq_labelled, labelled_of_lookup hinfo, hname]

theorem composed_base (d : BaseDimension) : (base d).composed = d.symbol := by
  rw [← String.toList_inj, toList_composed, words_eq_map_support, support_base]
  simp [val_get_base, exponentMark]

end Labels

/-- The count and the sum of the exponents recognise the base vectors. These have the labels of
their base dimension, and vectors that are not registered the composed text, which lists the
nonzero exponents in base order. -/
theorem base_recognised_and_listed (v : ExponentVector) :
    (v.isBase = true ↔ ∃ d, v = base d) ∧
    (∀ d, v = base d →
      (∀ e, v = base e → e = d) ∧
      v.symbol = d.symbol ∧ v.composed = d.symbol ∧ v.name = d.unitName) ∧
    ((∀ info ∈ UnitInfo.registry, info.dimension ≠ v) →
      v.symbol = v.composed ∧ v.name = v.composed) ∧
    ∃ powers, v.HasPowers powers ∧
      spacedWords v.composed = powers.map fun p => p.1.symbol.toList ++ exponentMark p.2 := by
  refine ⟨isBase_iff_exists_eq_base, ?_, ?_, v.exists_hasPowers_spacedWords⟩
  · rintro d rfl
    exact ⟨fun e h => (base_injective h).symm, symbol_base d, composed_base d, name_base d⟩
  · intro hregistry
    have hlookup := UnitInfo.lookup_eq_none_iff.mpr hregistry
    rw [symbol_eq_labelled, name_eq_labelled]
    exact ⟨labelled_of_not_registered hlookup, labelled_of_not_registered hlookup⟩

/-- Mass is a base vector. Exponents that only add up to one are not, and are listed. -/
theorem base_recognised_and_listed_mass :
    ((base .mass).symbol = "kg" ∧ (base .mass).composed = "kg" ∧ (base .mass).name = "kilogram") ∧
    (Dimension.vector ⟨2, -1, 0, 0, 0, 0, 0⟩).isBase ≠ true ∧
    (∀ info ∈ UnitInfo.registry, info.dimension ≠ Dimension.vector ⟨2, -1, 0, 0, 0, 0, 0⟩) ∧
    (Dimension.vector ⟨2, -1, 0, 0, 0, 0, 0⟩).symbol = "m+2 kg-1" ∧
    (Dimension.vector ⟨2, -1, 0, 0, 0, 0, 0⟩).name = "m+2 kg-1" := by
  obtain ⟨-, hmass, -, -⟩ := base_recognised_and_listed (base .mass)
  obtain ⟨hbase, -, hcomposed, -⟩ :=
    base_recognised_and_listed (Dimension.vector ⟨2, -1, 0, 0, 0, 0, 0⟩)
  have hregistry : ∀ info ∈ UnitInfo.registry,
      info.dimension ≠ Dimension.vector ⟨2, -1, 0, 0, 0, 0, 0⟩ := by
    decide
  obtain ⟨hsymbol, hname⟩ := hcomposed hregistry
  have htext : (Dimension.vector ⟨2, -1, 0, 0, 0, 0, 0⟩).composed = "m+2 kg-1" := by decide
  refine ⟨(hmass .mass rfl).2, fun h => ?_, hregistry, hsymbol.trans htext, hname.trans htext⟩
  obtain ⟨d, hd⟩ := hbase.mp h
  revert hd
  cases d <;> decide

end ExponentVector

end Metrology
