import Metrology.Number.Basic
import Metrology.Proofs.JsonDecimals
import Metrology.Proofs.ShortestDecimals
import Metrology.Proofs.StoredIntegers
import Metrology.Proofs.StoredUnit

namespace Metrology

open Json

namespace Binary

variable {p : Precision} {bits : Nat}

theorem toList_json_finite (negative : Bool) (code : Fin p.count) :
    (json (finite negative code)).toList =
      Literal.signedDigits negative ((stored p).text (shortest .even code)).toList := by
  cases negative <;> simp [json, Literal.signedDigits]

theorem exists_denotes_finite (negative : Bool) (code : Fin p.count) :
    ∃ l, Literal.Denotes l negative (shortest .even code).value ∧
      l.text = (json (finite negative code)).toList := by
  have hlayout : (stored p).point = true ∧ (stored p).plus = true := by
    cases p <;> exact ⟨rfl, rfl⟩
  rw [toList_json_finite]
  exact Literal.exists_denotes hlayout.1 hlayout.2 negative _

theorem readsBack_finite (negative : Bool) (code : Fin p.count) :
    ReadsBack (finite negative code) where
  scan rest hrest := by
    obtain ⟨l, hl, htext⟩ := exists_denotes_finite negative code
    refine ⟨.number l, ?_, ?_⟩
    · rw [Content.scan_eq_number_iff]
      exact htext ▸ Literal.scan_text hl.wellFormed hrest
    · have hread := hl.binary?_eq (isShortest_shortest .even code).codeOf_eq
      change readBinary p (.number l) = _
      simp only [readBinary, hread]
  skipBlanks rest := by
    obtain ⟨l, hl, htext⟩ := exists_denotes_finite negative code
    obtain ⟨c, cs, hcs, hc⟩ := Literal.begins_text hl.wellFormed
    have hjson : (Written.json (finite negative code)).toList = c :: cs := htext.symm.trans hcs
    rw [hjson]
    exact skipBlanks_cons (isBlank_of_begins hc)

/-- A finite number is told by its bits. -/
theorem ofBits_of_lt (hfinite : bits % signPlace p < p.count) :
    ofBits p bits = .finite (decide (signPlace p ≤ bits)) ⟨bits % signPlace p, hfinite⟩ :=
  dif_pos hfinite

theorem toBits_ofBits (hbits : bits < 2 * signPlace p) (hfinite : bits % signPlace p < p.count) :
    (ofBits p bits).toBits = bits := by
  rw [ofBits_of_lt hfinite]
  change bits % signPlace p + (if decide (signPlace p ≤ bits) then signPlace p else 0) = bits
  by_cases hsign : signPlace p ≤ bits
  · rw [decide_eq_true hsign, if_pos rfl, Nat.mod_eq_sub_mod hsign, Nat.mod_eq_of_lt (by omega),
      Nat.sub_add_cancel hsign]
  · rw [decide_eq_false hsign, if_neg (by decide), Nat.mod_eq_of_lt (by omega), Nat.add_zero]

end Binary

namespace Quantity

theorem readMagnitude_json {α : Type} [Written α] {q : Quantity α} (hq : ReadsBack q.magnitude) :
    readMagnitude q.json = .ok q.magnitude := by
  obtain ⟨c, hscan, hread⟩ := hq.scan [] (by simp [Literal.Ends])
  have hskip := hq.skipBlanks []
  rw [List.append_nil] at hscan hskip
  refine readScalar_eq_ok_iff.mpr ⟨c, [], ?_, hread, by simp [Blank]⟩
  rw [← hscan]
  exact congrArg _ hskip

/-- Every finite number is stored as a shortest decimal and read back with the same bits, alone
and with its unit. -/
theorem stored_binary_exact (p : Precision) {bits : Nat} (hbits : bits < 2 * Binary.signPlace p)
    (hfinite : bits % Binary.signPlace p < p.count) {d : Dimension} (hd : d.isMeasurable = true) :
    let q : Quantity (Binary p) := ⟨d, Binary.ofBits p bits, hd⟩
    (∃ x : Binary p, readMagnitude q.json = .ok x ∧ x.toBits = bits) ∧
    (∃ x : Binary p, readMagnitudeWithUnit d q.jsonWithUnit = ⟨.ok x, []⟩ ∧ x.toBits = bits) ∧
    ∃ e : Decimal, Binary.IsShortest ⟨bits % Binary.signPlace p, hfinite⟩ e ∧
      q.json = (if Binary.signPlace p ≤ bits then "-" else "") ++ (Binary.stored p).text e := by
  intro q
  have hmagnitude : q.magnitude = .finite _ _ := Binary.ofBits_of_lt hfinite
  have hq : ReadsBack q.magnitude := hmagnitude ▸ Binary.readsBack_finite _ _
  have htoBits : q.magnitude.toBits = bits := Binary.toBits_ofBits hbits hfinite
  refine ⟨⟨q.magnitude, readMagnitude_json hq, htoBits⟩, ⟨q.magnitude, ?_, htoBits⟩,
    ⟨_, Binary.isShortest_shortest .even _, ?_⟩⟩
  · rw [readMagnitudeWithUnit_jsonWithUnit hq, StoredFields.complete_of_found]
    exact if_pos rfl
  · rw [json, hmagnitude]
    simp only [Written.json, Binary.json, decide_eq_true_eq]

/-- The negative number next to zero, and a power of two, whose neighbours are not equally far. -/
theorem stored_binary_exact_neighbours :
    (∃ x : Binary .double,
      readMagnitude
          (json ⟨⟨1, 0, 0, 0, 0, 0, 0⟩, Binary.ofBits .double 0x8000000000000001, rfl⟩) = .ok x ∧
        x.toBits = 0x8000000000000001) ∧
    ∃ x : Binary .single,
      readMagnitudeWithUnit ⟨1, 0, -2, 0, 0, 0, 0⟩
          (jsonWithUnit ⟨⟨1, 0, -2, 0, 0, 0, 0⟩, Binary.ofBits .single 0x4b800000, rfl⟩) =
        ⟨.ok x, []⟩ ∧
        x.toBits = 0x4b800000 :=
  ⟨(stored_binary_exact .double (by decide) (by decide) rfl).1,
    (stored_binary_exact .single (by decide) (by decide) rfl).2.1⟩

end Quantity

end Metrology
