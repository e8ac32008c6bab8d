import Metrology.Proofs.JsonWriting
import Metrology.Proofs.UnitText
import Metrology.Quantity.Json

namespace Metrology

open Json

/-- The stored form of a number is read back, inside of any text that does not prolong it. -/
structure ReadsBack {α : Type} [Written α] (x : α) : Prop where
  scan : ∀ rest, Literal.Ends rest →
    ∃ c, Content.scan ((Written.json x).toList ++ rest) = some (c, rest) ∧ Written.read c = .ok x
  skipBlanks : ∀ rest,
    skipBlanks ((Written.json x).toList ++ rest) = (Written.json x).toList ++ rest

theorem BoundedInt.readsBack {k : IntegerKind} (x : BoundedInt k) : ReadsBack x where
  scan _ hrest := ⟨_, Content.scan_signed x.val hrest, readInteger_ofInt x⟩
  skipBlanks rest := skipBlanks_signed x.val rest

namespace StoredFields

variable {α : Type} {read : Content → Except ReadError α} {fields : StoredFields α}

theorem take_value {c : Content} {x : α} (hvalue : fields.value = none) (hread : read c = .ok x) :
    fields.take read "value" (some c) = .ok { fields with value := some x } := by
  simp only [take, hvalue, hread]
  rfl

theorem take_unit (text : String) (hunit : fields.unit = none) :
    fields.take read "unit" (some (.text text)) = .ok { fields with unit := some text } := by
  simp only [take, hunit]
  rfl

theorem takeAll_written {c : Content} {x : α} (text : String) (hread : read c = .ok x) :
    takeAll read {} (.entry "value" (some c) (.entry "unit" (some (.text text)) (.closed []))) =
      .ok (⟨some x, some text⟩, []) := by
  simp only [takeAll, take_value (show ({} : StoredFields α).value = none from rfl) hread]
  rw [take_unit text rfl]

theorem complete_of_found (expected found : String) (x : α) :
    complete expected ⟨some x, some found⟩ =
      if found = expected then ⟨.ok x, []⟩
      else ⟨.error (.unit (.mismatch expected found)),
        [(UnitError.mismatch expected found).event]⟩ :=
  rfl

end StoredFields

namespace Quantity

variable {α : Type} [Written α]

def unitEntry (q : Quantity α) : List Char :=
  Members.entryText false "unit" ((Text.write q.unitSymbol).toList ++ ['\x7d'])

def storedEntries (q : Quantity α) : List Char :=
  Members.entryText true "value" ((Written.json q.magnitude).toList ++ q.unitEntry)

theorem toList_jsonWithUnit (q : Quantity α) :
    q.jsonWithUnit.toList = '\x7b' :: q.storedEntries := by
  simp [jsonWithUnit, json, storedEntries, unitEntry, Members.entryText, Text.escape]

omit [Written α] in
theorem ends_unitEntry (q : Quantity α) : Literal.Ends q.unitEntry := by
  intro c hc
  obtain rfl : ',' = c := by simpa [unitEntry, Members.entryText] using hc
  decide

theorem scan_storedEntries {q : Quantity α} (hq : ReadsBack q.magnitude) :
    ∃ c, Written.read c = .ok q.magnitude ∧
      Members.scan (q.storedEntries.length + 1) true q.storedEntries =
        .entry "value" (some c) (.entry "unit" (some (.text q.unitSymbol)) (.closed [])) := by
  obtain ⟨c, hscan, hread⟩ := hq.scan q.unitEntry q.ends_unitEntry
  refine ⟨c, hread, ?_⟩
  -- One step for each entry and one for the bracket.
  obtain ⟨fuel, hfuel⟩ : ∃ fuel, q.storedEntries.length + 1 = fuel + 1 + 1 + 1 := by
    refine ⟨q.storedEntries.length - 2, ?_⟩
    have hlength : 2 ≤ q.storedEntries.length := by
      simp only [storedEntries, Members.entryText, List.length_append, List.length_cons]
      omega
    omega
  rw [hfuel, storedEntries, Members.scan_entryText _ true "value" (hq.skipBlanks _) hscan,
    unitEntry,
    Members.scan_entryText _ false "unit" (skipBlanks_text _ _) (Content.scan_text _ _),
    Members.scan_closed]

/-- Reading the stored form comes down to the check of the unit. -/
theorem readMagnitudeWithUnit_jsonWithUnit {q : Quantity α} (hq : ReadsBack q.magnitude)
    (d : Dimension) :
    readMagnitudeWithUnit d q.jsonWithUnit =
      StoredFields.complete d.vector.symbol ⟨some q.magnitude, some q.unitSymbol⟩ := by
  obtain ⟨c, hread, hscan⟩ := scan_storedEntries hq
  have hcontent : readContent q.jsonWithUnit = .ok (.map, q.storedEntries) := by
    unfold readContent
    rw [toList_jsonWithUnit, skipBlanks_cons (by decide)]
    rfl
  have hfields := StoredFields.takeAll_written q.unitSymbol hread
  unfold readMagnitudeWithUnit StoredFields.visit
  simp only [hcontent, hscan, hfields, Logged.liftM_eq, Logged.ok_bind]
  rw [StoredFields.complete_of_found]
  split <;> rfl

/-- A stored quantity is read at a dimension exactly if the vectors agree, and then without loss
and without a line in the log. Otherwise the error says which symbol was expected and which was
found, and one line is logged. -/
theorem stored_unit_decides {k : IntegerKind} (q : Quantity (BoundedInt k)) (d : Dimension) :
    ((∃ x : BoundedInt k, (readMagnitudeWithUnit d q.jsonWithUnit).result = .ok x) ↔
      q.vector = d.vector) ∧
    (q.vector = d.vector → readMagnitudeWithUnit d q.jsonWithUnit = ⟨.ok q.magnitude, []⟩) ∧
    (q.vector ≠ d.vector → ∃ e : ReadError,
      readMagnitudeWithUnit d q.jsonWithUnit =
        (⟨.error e, ["rejecting quantity with unit '" ++ q.vector.symbol ++
          "', expected '" ++ d.vector.symbol ++ "'"]⟩ : Logged ReadError (BoundedInt k)) ∧
      e = .unit (.mismatch d.vector.symbol q.vector.symbol) ∧
      e.message? =
        some ("unit mismatch: expected '" ++ d.vector.symbol ++
          "', found '" ++ q.vector.symbol ++ "'")) := by
  have hread := readMagnitudeWithUnit_jsonWithUnit q.magnitude.readsBack d
  rw [StoredFields.complete_of_found, unitSymbol] at hread
  by_cases hvector : q.vector = d.vector
  · rw [if_pos (by rw [hvector])] at hread
    exact ⟨iff_of_true ⟨_, by rw [hread]⟩ hvector, fun _ => hread, fun h => absurd hvector h⟩
  · have hsymbol : q.vector.symbol ≠ d.vector.symbol :=
      fun h => hvector (ExponentVector.symbol_injective h)
    rw [if_neg hsymbol] at hread
    refine ⟨iff_of_false ?_ hvector, fun h => absurd h hvector, fun _ => ⟨_, hread, rfl, rfl⟩⟩
    rintro ⟨x, hx⟩
    rw [hread] at hx
    cases hx

/-- A pressure is no length, but it is read at a dimension that is a whole period away. -/
theorem stored_unit_decides_pressure :
    readMagnitudeWithUnit ⟨-1, 1, 254, 0, 0, 0, 0⟩
        (jsonWithUnit ⟨⟨-1, 1, -2, 0, 0, 0, 0⟩, BoundedInt.wrap .int8 (-128), rfl⟩) =
      ⟨.ok (BoundedInt.wrap .int8 (-128)), []⟩ ∧
    ∃ e : ReadError,
      readMagnitudeWithUnit ⟨1, 0, 0, 0, 0, 0, 0⟩
          (jsonWithUnit ⟨⟨-1, 1, -2, 0, 0, 0, 0⟩, BoundedInt.wrap .int8 (-128), rfl⟩) =
        (⟨.error e, ["rejecting quantity with unit 'Pa', expected 'm'"]⟩ :
          Logged ReadError (BoundedInt .int8)) ∧
      e = .unit (.mismatch "m" "Pa") := by
  have hlength := stored_unit_decides ⟨⟨-1, 1, -2, 0, 0, 0, 0⟩, BoundedInt.wrap .int8 (-128), rfl⟩
    ⟨1, 0, 0, 0, 0, 0, 0⟩
  obtain ⟨e, hread, he, -⟩ := hlength.2.2 (by decide)
  exact ⟨(stored_unit_decides ⟨⟨-1, 1, -2, 0, 0, 0, 0⟩, BoundedInt.wrap .int8 (-128), rfl⟩
    ⟨-1, 1, 254, 0, 0, 0, 0⟩).2.1 (by decide), e,
    hread.trans (congrArg (Logged.mk _) (by decide)), he.trans (by decide)⟩

end Quantity

end Metrology
