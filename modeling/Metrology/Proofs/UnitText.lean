import Mathlib.Logic.Function.Basic
import Metrology.Text.Word
import Metrology.Units.Info

namespace Metrology

theorem BaseDimension.symbol_injective : Function.Injective symbol := by
  have hall : ∀ a ∈ all, ∀ b ∈ all, a.symbol = b.symbol → a = b := by
    decide
  intro a b h
  exact hall a a.mem_all b b.mem_all h

theorem BaseDimension.all_isAlpha_symbol (d : BaseDimension) :
    d.symbol.toList.all Char.isAlpha = true := by
  cases d <;> decide

namespace ExponentVector

/-- What follows the symbol in a power of a base unit. -/
def exponentMark (n : Int) : List Char :=
  if n = 1 then []
  else if 1 < n then '+' :: Nat.toDigits 10 n.natAbs
  else '-' :: Nat.toDigits 10 n.natAbs

theorem toList_factorText (d : BaseDimension) (n : Int) :
    (factorText d n).toList = d.symbol.toList ++ exponentMark n := by
  unfold factorText exponentMark
  split
  · simp
  · split <;> simp [Nat.toList_repr]

theorem any_isAlpha_head?_exponentMark (n : Int) :
    (exponentMark n).head?.any Char.isAlpha = false := by
  unfold exponentMark
  split
  · rfl
  · split <;> rfl

def markedExponent : List Char → Option Int
  | [] => some 1
  | '+' :: ds => some (Nat.ofDigitChars 10 ds 0)
  | '-' :: ds => some (-(Nat.ofDigitChars 10 ds 0 : Int))
  | _ => none

theorem markedExponent_exponentMark (n : Int) : markedExponent (exponentMark n) = some n := by
  unfold exponentMark
  split
  · rename_i hone
    rw [hone]
    rfl
  · split
    · simp only [markedExponent, Nat.ofDigitChars_ten_toDigits, Option.some.injEq]
      omega
    · simp only [markedExponent, Nat.ofDigitChars_ten_toDigits, Option.some.injEq]
      omega

/-- The exponent that a word gives to a base dimension. -/
def wordExponent (d : BaseDimension) (word : List Char) : Option Int :=
  if word.takeWhile Char.isAlpha = d.symbol.toList then
    markedExponent (word.dropWhile Char.isAlpha)
  else none

theorem wordExponent_factorText (d d' : BaseDimension) (n : Int) :
    wordExponent d (factorText d' n).toList = if d' = d then some n else none := by
  obtain ⟨htake, hdrop⟩ := span_word d'.all_isAlpha_symbol (any_isAlpha_head?_exponentMark n)
  unfold wordExponent
  rw [toList_factorText, htake, hdrop, markedExponent_exponentMark]
  simp only [String.toList_inj, BaseDimension.symbol_injective.eq_iff]

theorem space_not_mem_factorText (d : BaseDimension) (n : Int) :
    ' ' ∉ (factorText d n).toList := by
  rw [toList_factorText, List.mem_append, not_or]
  constructor
  · intro h
    exact absurd (List.all_eq_true.mp d.all_isAlpha_symbol ' ' h) (by decide)
  · have hdigits : ' ' ∉ Nat.toDigits 10 n.natAbs := by
      intro h
      exact absurd (Nat.isDigit_of_mem_toDigits (by decide) (by decide) h) (by decide)
    unfold exponentMark
    split
    · simp
    · split <;> simp [hdigits]

/-- The exponents that the words of a text give; a base dimension without a word has none. -/
def composedExponents (text : String) : Dimension :=
  Exponents.ofFn fun d => ((text.toList.splitOn ' ').findSome? (wordExponent d)).getD 0

theorem findSome?_wordExponent (d : BaseDimension) (exponent : BaseDimension → Int)
    (ds : List BaseDimension) :
    (ds.map fun d' => (factorText d' (exponent d')).toList).findSome? (wordExponent d) =
      if d ∈ ds then some (exponent d) else none := by
  induction ds with
  | nil => rfl
  | cons d' ds ih =>
      rw [List.map_cons, List.findSome?_cons, wordExponent_factorText, ih]
      by_cases hd : d' = d
      · simp [hd]
      · simp [hd, Ne.symm hd]

def words (v : ExponentVector) : List (List Char) :=
  (BaseDimension.all.filter fun d => v.get d != 0).map fun d =>
    (factorText d (v.get d).val).toList

theorem toList_composed (v : ExponentVector) : v.composed.toList = [' '].intercalate v.words := by
  unfold composed words
  rw [String.toList_intercalate, List.map_map]
  rfl

theorem splitOn_composed {v : ExponentVector} (hv : v.words ≠ []) :
    v.composed.toList.splitOn ' ' = v.words := by
  rw [toList_composed]
  refine List.splitOn_intercalate ' ' (fun word hword => ?_) hv
  obtain ⟨d, -, rfl⟩ := List.mem_map.mp hword
  exact space_not_mem_factorText d _

theorem wordExponent_nil (d : BaseDimension) : wordExponent d [] = none := by
  cases d <;> decide

theorem findSome?_splitOn_composed (v : ExponentVector) (d : BaseDimension) :
    (v.composed.toList.splitOn ' ').findSome? (wordExponent d) =
      v.words.findSome? (wordExponent d) := by
  by_cases hv : v.words = []
  · -- Splitting the empty text gives one empty word.
    rw [toList_composed, hv]
    simp [wordExponent_nil]
  · rw [splitOn_composed hv]

theorem composedExponents_composed (v : ExponentVector) :
    composedExponents v.composed = v.toDimension := by
  apply Exponents.ext_get
  intro d
  unfold composedExponents toDimension
  rw [Exponents.get_ofFn, Exponents.get_map, findSome?_splitOn_composed, words,
    findSome?_wordExponent]
  by_cases hd : v.get d = 0
  · simp [hd]
  · simp [hd, d.mem_all]

theorem toDimension_injective : Function.Injective toDimension := by
  intro v w h
  apply Exponents.ext_get
  intro d
  have hd := congrArg (fun a : Dimension => a.get d) h
  simp only [toDimension, Exponents.get_map] at hd
  exact BoundedInt.ext hd

theorem composed_injective : Function.Injective composed := by
  intro v w h
  apply toDimension_injective
  rw [← composedExponents_composed v, h, composedExponents_composed w]

end ExponentVector

namespace UnitInfo

theorem mem_registry_of_lookup {v : ExponentVector} {info : UnitInfo} (h : lookup v = some info) :
    info ∈ registry ∧ info.dimension = v := by
  refine ⟨List.mem_of_find?_eq_some h, ?_⟩
  simpa using List.find?_some h

theorem lookup_ne_none {info : UnitInfo} (h : info ∈ registry) :
    lookup info.dimension ≠ none := by
  intro hnone
  have habsent := List.find?_eq_none.mp hnone info h
  simp at habsent

/-- Labels that tell the registered units from one another and from every composed text of another
dimension. -/
structure Distinguishes (label : UnitInfo → String) : Prop where
  distinct : ∀ a ∈ registry, ∀ b ∈ registry, label a = label b → a = b
  composed : ∀ a ∈ registry, ∃ b ∈ registry,
    ExponentVector.composedExponents (label a) = b.dimension.toDimension

theorem distinguishes_symbol : Distinguishes symbol := by
  constructor <;> decide

end UnitInfo

namespace ExponentVector

variable {label : UnitInfo → String}

/-- The text of a vector, where a registered unit is known by its label. -/
def labelled (label : UnitInfo → String) (v : ExponentVector) : String :=
  match UnitInfo.lookup v with
  | some info => label info
  | none => v.composed

theorem labelled_of_lookup {v : ExponentVector} {info : UnitInfo}
    (h : UnitInfo.lookup v = some info) : labelled label v = label info := by
  unfold labelled
  rw [h]

theorem labelled_of_not_registered {v : ExponentVector} (h : UnitInfo.lookup v = none) :
    labelled label v = v.composed := by
  unfold labelled
  rw [h]

theorem label_ne_composed (hlabel : UnitInfo.Distinguishes label) {info : UnitInfo}
    (hinfo : info ∈ UnitInfo.registry) {v : ExponentVector} (hv : UnitInfo.lookup v = none) :
    label info ≠ v.composed := by
  intro h
  obtain ⟨other, hother, hexponents⟩ := hlabel.composed info hinfo
  rw [h, composedExponents_composed] at hexponents
  have hdimension : v = other.dimension := toDimension_injective hexponents
  exact UnitInfo.lookup_ne_none hother (hdimension ▸ hv)

theorem labelled_injective (hlabel : UnitInfo.Distinguishes label) :
    Function.Injective (labelled label) := by
  intro v w h
  cases hv : UnitInfo.lookup v with
  | some a =>
      obtain ⟨ha, rfl⟩ := UnitInfo.mem_registry_of_lookup hv
      rw [labelled_of_lookup hv] at h
      cases hw : UnitInfo.lookup w with
      | some b =>
          obtain ⟨hb, rfl⟩ := UnitInfo.mem_registry_of_lookup hw
          rw [labelled_of_lookup hw] at h
          rw [hlabel.distinct a ha b hb h]
      | none =>
          rw [labelled_of_not_registered hw] at h
          exact absurd h (label_ne_composed hlabel ha hw)
  | none =>
      rw [labelled_of_not_registered hv] at h
      cases hw : UnitInfo.lookup w with
      | some b =>
          obtain ⟨hb, rfl⟩ := UnitInfo.mem_registry_of_lookup hw
          rw [labelled_of_lookup hw] at h
          exact absurd h.symm (label_ne_composed hlabel hb hv)
      | none =>
          rw [labelled_of_not_registered hw] at h
          exact composed_injective h

theorem symbol_eq_labelled (v : ExponentVector) : v.symbol = labelled UnitInfo.symbol v := by
  unfold symbol labelled
  cases UnitInfo.lookup v <;> rfl

/-- Two dimensions never share a symbol. -/
theorem symbol_injective : Function.Injective symbol := by
  intro v w h
  rw [symbol_eq_labelled, symbol_eq_labelled] at h
  exact labelled_injective UnitInfo.distinguishes_symbol h

end ExponentVector

end Metrology
