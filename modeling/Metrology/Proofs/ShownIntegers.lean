import Metrology.Proofs.JsonIntegers
import Metrology.Proofs.UnitText
import Metrology.Quantity.Basic

namespace Metrology

open Json.Literal (signedDigits digitsValue)

namespace Spec

variable {spec : Spec} {n : Int} {before ds rest : List Char} {negative : Bool}

/-- What stands before a number is not a part of it. -/
def isOutside (c : Char) : Bool :=
  !c.isDigit && c != '-'

/-- The integer that a text shows. -/
def shownInteger (text : List Char) : Int :=
  match text.dropWhile isOutside with
  | '-' :: cs => -(digitsValue (cs.takeWhile Char.isDigit) : Int)
  | cs => digitsValue (cs.takeWhile Char.isDigit)

/-- A fill that cannot be taken for a part of a number. Where there are zeros instead, it is not
used. -/
def FillsOutside (spec : Spec) : Prop :=
  spec.zero = false → isOutside spec.fill = true

instance (spec : Spec) : Decidable spec.FillsOutside :=
  inferInstanceAs (Decidable (spec.zero = false → isOutside spec.fill = true))

section Decode

theorem shownInteger_append (hbefore : ∀ c ∈ before, isOutside c = true) (hds : ds ≠ [])
    (hdigits : ∀ c ∈ ds, c.isDigit = true) (hrest : rest.head?.any Char.isDigit = false) :
    shownInteger (before ++ (signedDigits negative ds ++ rest)) =
      if negative then -(digitsValue ds : Int) else digitsValue ds := by
  obtain ⟨htake, -⟩ := span_word (List.all_eq_true.mpr hdigits) hrest
  unfold shownInteger
  rw [List.dropWhile_append_of_pos hbefore]
  cases negative with
  | true =>
      have hminus : isOutside '-' = false := by decide
      simp [signedDigits, hminus, htake]
  | false =>
      obtain ⟨d, ds', rfl⟩ := List.exists_cons_of_ne_nil hds
      have hd : d.isDigit = true := hdigits d (by simp)
      have hne : d ≠ '-' := by
        rintro rfl
        exact absurd hd (by decide)
      simp only [signedDigits, Bool.false_eq_true, if_false, List.cons_append] at htake ⊢
      rw [List.dropWhile_cons_of_neg (by simp [isOutside, hd])]
      split
      · rename_i cs hcs
        exact absurd (List.cons.inj hcs).1 hne
      · rw [htake]

end Decode

section Form

/-- The text has a number in it: zeros and the digits of the integer, with a minus sign if it is
below zero, and nothing around them that prolongs it. -/
structure Shows (text : List Char) (n : Int) (zeros : Nat) (before after : List Char) : Prop where
  text_eq : text = before ++
    (signedDigits (decide (n < 0)) (List.replicate zeros '0' ++ Decimal.digits n.natAbs) ++
      after)
  before : ∀ c ∈ before, isOutside c = true
  after : after.head?.any Char.isDigit = false

theorem Shows.shownInteger_eq {text after : List Char} {zeros : Nat}
    (h : Shows text n zeros before after) : shownInteger text = n := by
  have hdigits : ∀ c ∈ List.replicate zeros '0' ++ Decimal.digits n.natAbs, c.isDigit = true := by
    intro c hc
    rcases List.mem_append.mp hc with hzero | hdigit
    · rw [List.eq_of_mem_replicate hzero]
      rfl
    · exact Decimal.isDigit_of_mem_digits hdigit
  rw [h.text_eq, shownInteger_append h.before (by simp [Decimal.digits_ne_nil]) hdigits h.after,
    Json.Literal.digitsValue_zeros_append, Json.Literal.digitsValue_digits]
  split
  · rename_i hn
    have hnegative := of_decide_eq_true hn
    omega
  · rename_i hn
    have hnonneg := mt decide_eq_true hn
    omega

theorem Shows.append {text after : List Char} {zeros : Nat} (h : Shows text n zeros before after)
    (hrest : rest.head?.any Char.isDigit = false) :
    Shows (text ++ rest) n zeros before (after ++ rest) where
  text_eq := by simp [h.text_eq]
  before := h.before
  after := by
    have hafter := h.after
    cases after with
    | nil => exact hrest
    | cons c after => exact hafter

/-- The plus sign, where there is one. -/
def plusMark (spec : Spec) (n : Int) : List Char :=
  if n < 0 then [] else if spec.plus then ['+'] else []

theorem isOutside_of_mem_plusMark {c : Char} (h : c ∈ spec.plusMark n) : isOutside c = true := by
  unfold plusMark at h
  split at h
  · simp at h
  · split at h
    · obtain rfl := List.mem_singleton.mp h
      decide
    · simp at h

theorem toList_sign_append (spec : Spec) (n : Int) (cs : List Char) :
    (spec.sign (decide (n < 0))).toList ++ cs =
      spec.plusMark n ++ signedDigits (decide (n < 0)) cs := by
  by_cases hn : n < 0
  · simp [sign, plusMark, signedDigits, hn]
  · by_cases hplus : spec.plus = true
    · simp [sign, plusMark, signedDigits, hn, hplus]
    · simp [sign, plusMark, signedDigits, hn, hplus]

theorem isOutside_of_mem_replicate_append (hfill : isOutside spec.fill = true) (gap : Nat)
    {c : Char} (h : c ∈ List.replicate gap spec.fill ++ spec.plusMark n) :
    isOutside c = true := by
  rcases List.mem_append.mp h with hc | hc
  · rwa [List.eq_of_mem_replicate hc]
  · exact isOutside_of_mem_plusMark hc

theorem any_isDigit_head?_replicate (hfill : isOutside spec.fill = true) (gap : Nat) :
    (List.replicate gap spec.fill).head?.any Char.isDigit = false := by
  cases gap with
  | zero => rfl
  | succ gap =>
      have hdigit : spec.fill.isDigit = false := by
        simp only [isOutside, Bool.and_eq_true, Bool.not_eq_true'] at hfill
        exact hfill.1
      simpa [List.replicate_succ] using hdigit

theorem exists_shows_of_zero (hzero : spec.zero = true) (n : Int) :
    ∃ zeros, Shows (spec.integer n).toList n zeros (spec.plusMark n) [] := by
  refine ⟨spec.width - ((spec.sign (decide (n < 0))).length + n.natAbs.repr.length), ?_,
    fun c => isOutside_of_mem_plusMark, rfl⟩
  rw [List.append_nil, ← toList_sign_append]
  simp [integer, number, hzero, repeated, Decimal.digits]

theorem shows_of_padded (hfill : isOutside spec.fill = true) {text : List Char} (left right : Nat)
    (htext : text = List.replicate left spec.fill ++
      ((spec.sign (decide (n < 0))).toList ++ Decimal.digits n.natAbs) ++
        List.replicate right spec.fill) :
    Shows text n 0 (List.replicate left spec.fill ++ spec.plusMark n)
      (List.replicate right spec.fill) where
  text_eq := by
    rw [htext, toList_sign_append]
    simp
  before _ := isOutside_of_mem_replicate_append hfill left
  after := any_isDigit_head?_replicate hfill right

theorem exists_toList_pad (spec : Spec) (standard : Align) (text : String) :
    ∃ left right, (spec.pad standard text).toList =
      List.replicate left spec.fill ++ text.toList ++ List.replicate right spec.fill := by
  unfold pad
  cases spec.align.getD standard with
  | left => exact ⟨0, spec.width - text.length, by simp [repeated]⟩
  | right => exact ⟨spec.width - text.length, 0, by simp [repeated]⟩
  | center =>
      exact ⟨(spec.width - text.length) / 2,
        spec.width - text.length - (spec.width - text.length) / 2, by simp [repeated]⟩

theorem exists_toList_integer (hzero : spec.zero = false) (n : Int) :
    ∃ left right, (spec.integer n).toList = List.replicate left spec.fill ++
      ((spec.sign (decide (n < 0))).toList ++ Decimal.digits n.natAbs) ++
        List.replicate right spec.fill := by
  have hinteger : spec.integer n =
      spec.pad .right (spec.sign (decide (n < 0)) ++ n.natAbs.repr) := by
    simp [integer, number, hzero]
  rw [hinteger]
  simpa [Decimal.digits] using
    spec.exists_toList_pad .right (spec.sign (decide (n < 0)) ++ n.natAbs.repr)

theorem exists_shows_of_fill (hzero : spec.zero = false) (hfill : isOutside spec.fill = true)
    (n : Int) : ∃ before after, Shows (spec.integer n).toList n 0 before after := by
  obtain ⟨left, right, htext⟩ := exists_toList_integer hzero n
  exact ⟨_, _, shows_of_padded hfill left right htext⟩

theorem exists_shows_integer (hspec : spec.FillsOutside) (n : Int) :
    ∃ zeros before after, Shows (spec.integer n).toList n zeros before after := by
  cases hzero : spec.zero with
  | true =>
      obtain ⟨zeros, h⟩ := exists_shows_of_zero hzero n
      exact ⟨zeros, _, _, h⟩
  | false => exact ⟨0, exists_shows_of_fill hzero (hspec hzero) n⟩

theorem blank_not_mem_sign (spec : Spec) (negative : Bool) :
    ' ' ∉ (spec.sign negative).toList := by
  unfold sign
  split
  · decide
  · split <;> decide

/-- With a digit or a minus sign as the fill there is no blank in the text of the number. -/
theorem blank_not_mem_integer (hspec : ¬ spec.FillsOutside) (n : Int) :
    ' ' ∉ (spec.integer n).toList := by
  obtain ⟨hzero, hfill⟩ := Classical.not_imp.mp hspec
  have hfill' : spec.fill ≠ ' ' := by
    intro hblank
    rw [hblank] at hfill
    exact hfill rfl
  have hdigits : ' ' ∉ Decimal.digits n.natAbs :=
    fun h => absurd (Decimal.isDigit_of_mem_digits h) (by decide)
  obtain ⟨left, right, htext⟩ := exists_toList_integer hzero n
  rw [htext]
  simp [List.mem_replicate, hfill'.symm, blank_not_mem_sign, hdigits]

end Form

end Spec

namespace Quantity

variable {k : IntegerKind}

theorem toList_display (spec : Spec) (q : Quantity (BoundedInt k)) :
    (q.display spec).toList = (spec.integer q.magnitude.val).toList ++
      ' ' :: q.unitSymbol.toList := by
  unfold display
  rw [String.toList_append, String.toList_append, List.append_assoc]
  rfl

/-- The number in a shown quantity is its magnitude. -/
theorem shownInteger_display {spec : Spec} (hspec : spec.FillsOutside)
    (q : Quantity (BoundedInt k)) :
    Spec.shownInteger (q.display spec).toList = q.magnitude.val := by
  obtain ⟨zeros, before, after, hshows⟩ := Spec.exists_shows_integer hspec q.magnitude.val
  have hblank : (' ' :: q.unitSymbol.toList).head?.any Char.isDigit = false := rfl
  rw [toList_display]
  exact (hshows.append hblank).shownInteger_eq

theorem magnitude_eq_of_display_eq {spec : Spec} (hspec : spec.FillsOutside)
    {q r : Quantity (BoundedInt k)} (h : q.display spec = r.display spec) :
    q.magnitude = r.magnitude := by
  apply BoundedInt.ext
  rw [← shownInteger_display hspec q, h, shownInteger_display hspec r]

/-- Where the fill may be a blank, the number itself is known; else its text ends at the first
one. -/
theorem integer_eq_of_display_eq {spec : Spec} {q r : Quantity (BoundedInt k)}
    (h : q.display spec = r.display spec) :
    spec.integer q.magnitude.val = spec.integer r.magnitude.val := by
  by_cases hspec : spec.FillsOutside
  · rw [magnitude_eq_of_display_eq hspec h]
  · have htake (q : Quantity (BoundedInt k)) :
        (q.display spec).toList.takeWhile (· != ' ') = (spec.integer q.magnitude.val).toList := by
      rw [toList_display]
      refine (span_word (List.all_eq_true.mpr fun c hc => ?_) rfl).1
      rw [bne_iff_ne]
      rintro rfl
      exact Spec.blank_not_mem_integer hspec _ hc
    rw [← String.toList_inj, ← htake q, h, htake r]

theorem display_eq_iff {spec : Spec} {q r : Quantity (BoundedInt k)} :
    q.display spec = r.display spec ↔
      spec.integer q.magnitude.val = spec.integer r.magnitude.val ∧ q.vector = r.vector := by
  constructor
  · intro h
    have hinteger := integer_eq_of_display_eq h
    refine ⟨hinteger, ExponentVector.symbol_injective ?_⟩
    have htext := congrArg String.toList h
    rw [toList_display, toList_display, hinteger] at htext
    have hsymbol := List.append_cancel_left htext
    exact String.toList_inj.mp (List.cons.inj hsymbol).2
  · rintro ⟨hinteger, hvector⟩
    rw [← String.toList_inj, toList_display, toList_display, hinteger, unitSymbol, unitSymbol,
      hvector]

def starred : Spec :=
  { fill := '*', align := some .center, width := 6 }

def pull : Quantity (BoundedInt .int8) :=
  ⟨⟨1, 1, -2, 0, 0, 0, 0⟩, BoundedInt.wrap .int8 (-12), rfl⟩

def digitFilled : Spec :=
  { fill := '1', align := some .right, width := 3 }

def meters (n : Int) : Quantity (BoundedInt .int8) :=
  ⟨⟨1, 0, 0, 0, 0, 0, 0⟩, BoundedInt.wrap .int8 n, rfl⟩

end Quantity

end Metrology
