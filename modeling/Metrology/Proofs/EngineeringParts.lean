import Mathlib.Data.Int.Interval
import Metrology.Proofs.EngineeringDigits

namespace Metrology

theorem Decimal.signed_injective : Function.Injective (Decimal.signed false) := by
  intro m n h
  have hends : Json.Literal.Ends [] := by simp [Json.Literal.Ends]
  have hscan := Json.Literal.scan_signed m hends
  rw [h, Json.Literal.scan_signed n hends, Option.some.injEq, Prod.mk.injEq] at hscan
  have hinteger := Json.Literal.integer?_ofInt m
  rw [← hscan.1, Json.Literal.integer?_ofInt, Option.some.injEq] at hinteger
  exact hinteger.symm

namespace Engineering

section Number

/-- The characters of numbers, the word for infinity included. -/
def isNumberChar (c : Char) : Bool :=
  c.isDigit || Decimal.isSign c || c == '.' || c == 'i' || c == 'n' || c == 'f'

/-- The number in front of a text. -/
def numberPart (text : String) : String :=
  String.ofList (text.toList.takeWhile isNumberChar)

theorem isNumberChar_of_isDigit {c : Char} (h : c.isDigit = true) : isNumberChar c = true := by
  simp [isNumberChar, h]

theorem all_isNumberChar_sign {sign : String} (h : Decimal.IsSignText sign) :
    sign.toList.all isNumberChar = true := by
  rcases h with rfl | rfl | rfl <;> decide

theorem all_isNumberChar_pointed (n places : Nat) :
    (Decimal.pointed n places).toList.all isNumberChar = true := by
  rw [Decimal.toList_pointed, List.all_append, Bool.and_eq_true]
  constructor
  · rw [List.all_eq_true]
    intro c hc
    exact isNumberChar_of_isDigit (Decimal.isDigit_of_mem_wholePart hc)
  · split
    · rfl
    · rw [List.all_cons, Bool.and_eq_true]
      refine ⟨by decide, List.all_eq_true.mpr fun c hc => ?_⟩
      exact isNumberChar_of_isDigit (Decimal.isDigit_of_mem_fraction hc)

variable {value : Binary .double} {a : ℚ} {format : Format} {unit number s : String}

theorem scaled_finite_or_infinite (hvalue : value.toRat? = some a) :
    (∃ x, (scaled value).toRat? = some x) ∨ scaled value = .infinite value.isNegative := by
  by_cases ha : a = 0
  · subst ha
    exact .inl ⟨0, scaled_of_zero hvalue⟩
  · by_cases hreach : reach ≤ |a|
    · obtain ⟨x, hx, -⟩ := toRat?_scaled hvalue ha ((neg_le_degree_iff hvalue ha).mpr hreach)
      exact .inl ⟨x, hx⟩
    · exact .inr (scaled_of_not_reach hvalue ha hreach)

theorem eq_display_of_mantissa (h : mantissa format value = .ok number) :
    number = (scaled value).display
      { plus := format.showSign, precision := some (places (scaled value) format.digits) } := by
  simp only [mantissa] at h
  split at h
  · cases h
  · exact (Except.ok.inj h).symm

/-- The number is a sign and a body, which is never the word for what is not a number. -/
theorem exists_body_of_mantissa (hvalue : value.toRat? = some a)
    (h : mantissa format value = .ok number) :
    ∃ sign body, number = sign ++ body ∧ Decimal.IsSignText sign ∧
      (body = "inf" ∨ ∃ n places, body = Decimal.pointed n places) := by
  rw [eq_display_of_mantissa h]
  rcases scaled_finite_or_infinite hvalue with ⟨x, hx⟩ | hinfinite
  · obtain ⟨sign, n, htext, hsign, -⟩ := Binary.exists_display hx format.showSign
      (places (scaled value) format.digits)
    exact ⟨sign, _, htext, hsign, .inr ⟨n, _, rfl⟩⟩
  · generalize places (scaled value) format.digits = n
    rw [hinfinite, Binary.display_infinite]
    exact ⟨_, _, rfl, Spec.isSignText_sign _ _, .inl rfl⟩

theorem all_isNumberChar_mantissa (hvalue : value.toRat? = some a)
    (h : mantissa format value = .ok number) : number.toList.all isNumberChar = true := by
  obtain ⟨sign, body, rfl, hsign, hbody⟩ := exists_body_of_mantissa hvalue h
  rw [String.toList_append, List.all_append, all_isNumberChar_sign hsign, Bool.true_and]
  rcases hbody with rfl | ⟨n, places, rfl⟩
  · decide
  · exact all_isNumberChar_pointed n places

theorem mantissa_ne_empty (hvalue : value.toRat? = some a)
    (h : mantissa format value = .ok number) : number ≠ "" := by
  obtain ⟨sign, body, rfl, -, hbody⟩ := exists_body_of_mantissa hvalue h
  intro hempty
  have hbody' : body = "" := (String.append_eq_empty_iff.mp hempty).2
  rcases hbody with rfl | ⟨n, places, rfl⟩
  · simp at hbody'
  · obtain ⟨c, cs, hcs, -⟩ := Decimal.exists_toList_pointed n places
    simp [hbody'] at hcs

end Number

section Tail

variable {format : Format} {d d' : Int} {unit symbol : String}

theorem bounds_of_scaleSymbol? (h : scaleSymbol? d = some symbol) : d ∈ Finset.Icc (-8) 8 := by
  have hlength : ∀ symbols ∈ [fractionSymbols, multipleSymbols], symbols.length = 9 := by decide
  obtain ⟨hindex, -⟩ := List.getElem?_eq_some_iff.mp h
  rw [hlength _ (by split <;> simp)] at hindex
  rw [Finset.mem_Icc]
  omega

theorem scaleSymbol?_injective (h : scaleSymbol? d = some symbol)
    (h' : scaleSymbol? d' = some symbol) : d = d' := by
  have hall : ∀ i ∈ Finset.Icc (-8 : Int) 8, ∀ j ∈ Finset.Icc (-8 : Int) 8,
      scaleSymbol? i = scaleSymbol? j → i = j := by
    decide
  exact hall d (bounds_of_scaleSymbol? h) d' (bounds_of_scaleSymbol? h') (h.trans h'.symm)

theorem length_of_scaleSymbol? (h : scaleSymbol? d = some symbol) (hd : d ≠ 0) :
    symbol.length = 1 := by
  have hall : ∀ i ∈ Finset.Icc (-8 : Int) 8,
      i ≠ 0 → (scaleSymbol? i).map String.length = some 1 := by
    decide
  have hone := hall d (bounds_of_scaleSymbol? h) hd
  rw [h] at hone
  exact Option.some.inj hone

theorem exponentText_injective : Function.Injective exponentText := by
  intro d d' h
  have hsigned := Decimal.signed_injective ((String.append_right_inj "e").mp h)
  omega

/-- The blank before a unit. -/
def gap (unit : String) : String :=
  if unit = "" then "" else " "

theorem length_gap_le (unit : String) : (gap unit).length ≤ 1 := by
  unfold gap
  split <;> decide

/-- The symbol that is written for a degree, if it is not written as an exponent. -/
def scale? (format : Format) (degree : Int) : Option String :=
  if format.exponential then none else scaleSymbol? degree

/-- What stands between the number and the unit. -/
def lead (format : Format) (degree : Int) (unit : String) : String :=
  match scale? format degree with
  | some symbol => if degree = 0 then gap unit else " " ++ symbol
  | none => exponentText degree ++ gap unit

theorem tail_eq_lead_append (format : Format) (d : Int) (unit : String) :
    tail format d unit = lead format d unit ++ unitText unit := by
  change (match scale? format d with
    | some symbol => if d = 0 then gap unit ++ unitText unit else " " ++ symbol ++ unitText unit
    | none => exponentText d ++ gap unit ++ unitText unit) = _
  unfold lead
  cases scale? format d with
  | none => rfl
  | some symbol => by_cases hd : d = 0 <;> simp [hd]

theorem scaleSymbol?_of_scale? (h : scale? format d = some symbol) :
    scaleSymbol? d = some symbol := by
  unfold scale? at h
  split at h
  · cases h
  · exact h

theorem lead_of_none (h : scale? format d = none) (unit : String) :
    lead format d unit = exponentText d ++ gap unit := by
  simp [lead, h]

theorem lead_of_some (h : scale? format d = some symbol) (unit : String) :
    lead format d unit = if d = 0 then gap unit else " " ++ symbol := by
  simp [lead, h]

theorem head?_lead_eq_iff :
    (lead format d unit).toList.head? = some 'e' ↔ scale? format d = none := by
  cases hscale : scale? format d with
  | none => simp [lead_of_none hscale, exponentText]
  | some symbol =>
      rw [lead_of_some hscale]
      split
      · simp only [gap]
        split <;> simp
      · simp

theorem length_lead_le_one_iff (h : scale? format d = some symbol) :
    (lead format d unit).length ≤ 1 ↔ d = 0 := by
  rw [lead_of_some h]
  split
  · rename_i hd
    exact iff_of_true (length_gap_le unit) hd
  · rename_i hd
    have hlength := length_of_scaleSymbol? (scaleSymbol?_of_scale? h) hd
    simp [hlength, hd]

theorem lead_injective (h : lead format d unit = lead format d' unit) : d = d' := by
  -- The first character tells the notation, and the length whether a symbol is written at all.
  have hnone : scale? format d = none ↔ scale? format d' = none := by
    rw [← head?_lead_eq_iff, h, head?_lead_eq_iff]
  cases hscale : scale? format d with
  | none =>
      rw [lead_of_none hscale, lead_of_none (hnone.mp hscale), String.append_left_inj] at h
      exact exponentText_injective h
  | some symbol =>
      obtain ⟨symbol', hscale'⟩ : ∃ symbol', scale? format d' = some symbol' := by
        rw [← Option.ne_none_iff_exists', Ne, ← hnone, hscale]
        simp
      have hzero : d = 0 ↔ d' = 0 := by
        rw [← length_lead_le_one_iff hscale, h, length_lead_le_one_iff hscale']
      by_cases hd : d = 0
      · rw [hd, hzero.mp hd]
      · rw [lead_of_some hscale, lead_of_some hscale', if_neg hd, if_neg (hzero.not.mp hd),
          String.append_right_inj] at h
        subst h
        exact scaleSymbol?_injective (scaleSymbol?_of_scale? hscale)
          (scaleSymbol?_of_scale? hscale')

theorem tail_injective (h : tail format d unit = tail format d' unit) : d = d' := by
  rw [tail_eq_lead_append, tail_eq_lead_append, String.append_left_inj] at h
  exact lead_injective h

/-- Whatever the unit begins with, the tail does not prolong the number before it. -/
theorem any_isNumberChar_head?_tail (format : Format) (d : Int) (unit : String) :
    (tail format d unit).toList.head?.any isNumberChar = false := by
  have hmark : isNumberChar 'e' = false := by decide
  have hblank : isNumberChar ' ' = false := by decide
  rw [tail_eq_lead_append]
  cases hscale : scale? format d with
  | none => simp [lead_of_none hscale, exponentText, hmark]
  | some symbol =>
      rw [lead_of_some hscale]
      split
      · unfold gap
        split
        · rename_i hunit
          simp [hunit, unitText]
        · simp [hblank]
      · simp [hblank]

end Tail

section Parts

variable {value : Binary .double} {a : ℚ} {format : Format} {unit s : String}

theorem exists_mantissa_of_text (hvalue : value.toRat? = some a)
    (h : text format value unit = .ok s) :
    ∃ number,
      mantissa format value = .ok number ∧ s = number ++ tail format (degree value) unit := by
  cases hmantissa : mantissa format value with
  | error e =>
      obtain ⟨negative, code, rfl, -⟩ := Binary.exists_finite_of_toRat? hvalue
      change (mantissa format _ >>= fun number => pure (number ++ tail format _ unit)) = _ at h
      rw [hmantissa] at h
      cases h
  | ok number =>
      rw [text_of_mantissa hvalue hmantissa unit] at h
      exact ⟨number, rfl, (Except.ok.inj h).symm⟩

/-- The number in front of a text, and what follows it, are found without a look at the unit. -/
theorem numberPart_of_text (hvalue : value.toRat? = some a) (h : text format value unit = .ok s) :
    mantissa format value = .ok (numberPart s) ∧
      s = numberPart s ++ tail format (degree value) unit := by
  obtain ⟨number, hmantissa, rfl⟩ := exists_mantissa_of_text hvalue h
  have hspan := span_word (all_isNumberChar_mantissa hvalue hmantissa)
    (any_isNumberChar_head?_tail format (degree value) unit)
  have hnumber : numberPart (number ++ tail format (degree value) unit) = number := by
    rw [numberPart, String.toList_append, hspan.1, String.ofList_toList]
  rw [hnumber]
  exact ⟨hmantissa, rfl⟩

theorem numberPart_ne_empty (hvalue : value.toRat? = some a)
    (h : text format value unit = .ok s) : numberPart s ≠ "" :=
  mantissa_ne_empty hvalue (numberPart_of_text hvalue h).1

theorem mantissa_with_exponential (format : Format) (exponential : Bool)
    (value : Binary .double) :
    mantissa { format with exponential := exponential } value = mantissa format value :=
  rfl

/-- For a fixed format and unit, the text tells the degree and the number in front. The number is
the same in both notations, and no finite value is written as a word alone. -/
theorem text_unambiguous (format : Format) (unit : String) :
    (∀ x y a b s, x.toRat? = some a → y.toRat? = some b →
      text format x unit = .ok s → text format y unit = .ok s →
        degree x = degree y ∧
        ∃ number, mantissa format x = .ok number ∧ mantissa format y = .ok number) ∧
    (∀ x a s, x.toRat? = some a → text format x unit = .ok s → ∀ exponential,
      ∃ s', text { format with exponential := exponential } x unit = .ok s' ∧
        numberPart s' = numberPart s ∧ mantissa format x = .ok (numberPart s)) ∧
    ∀ x a s, x.toRat? = some a → text format x unit = .ok s → s ≠ "NaN" ∧ s ≠ "INFINITE" := by
  refine ⟨?_, ?_, ?_⟩
  · intro x y a b s hx hy hxs hys
    obtain ⟨hmx, htx⟩ := numberPart_of_text hx hxs
    obtain ⟨hmy, hty⟩ := numberPart_of_text hy hys
    have htail : tail format (degree x) unit = tail format (degree y) unit :=
      (String.append_right_inj (numberPart s)).mp (htx.symm.trans hty)
    exact ⟨tail_injective htail, numberPart s, hmx, hmy⟩
  · intro x a s hx hs exponential
    obtain ⟨hmantissa, -⟩ := numberPart_of_text hx hs
    have htext := text_of_mantissa hx
      ((mantissa_with_exponential format exponential x).trans hmantissa) unit
    refine ⟨_, htext, ?_, hmantissa⟩
    obtain ⟨hmantissa', -⟩ := numberPart_of_text hx htext
    rw [mantissa_with_exponential, hmantissa] at hmantissa'
    exact (Except.ok.inj hmantissa').symm
  · intro x a s hx hs
    have hne := numberPart_ne_empty hx hs
    constructor
    · rintro rfl
      exact hne (by decide)
    · rintro rfl
      exact hne (by decide)

/-- Two values with one text, in a unit that looks like a scale and an exponent. -/
theorem text_unambiguous_twins :
    text {} (Binary.ofBits .double 0x4093480000000000) "k e3" = .ok "1.23 k(k e3)" ∧
    text {} (Binary.ofBits .double 0x4093380000000000) "k e3" = .ok "1.23 k(k e3)" ∧
    degree (Binary.ofBits .double 0x4093480000000000) =
      degree (Binary.ofBits .double 0x4093380000000000) ∧
    mantissa {} (Binary.ofBits .double 0x4093480000000000) = .ok "1.23" ∧
    ∃ s, text { exponential := true } (Binary.ofBits .double 0x4093480000000000) "k e3" = .ok s ∧
      numberPart s = "1.23" := by
  have hx : (Binary.ofBits .double 0x4093480000000000).toRat? = some 1234 := by decide +kernel
  have hy : (Binary.ofBits .double 0x4093380000000000).toRat? = some 1230 := by decide +kernel
  have hxs : text {} (Binary.ofBits .double 0x4093480000000000) "k e3" = .ok "1.23 k(k e3)" := by
    decide +kernel
  have hys : text {} (Binary.ofBits .double 0x4093380000000000) "k e3" = .ok "1.23 k(k e3)" := by
    decide +kernel
  obtain ⟨hpair, hnotation, -⟩ := text_unambiguous {} "k e3"
  obtain ⟨s, hs, hnumber, hmantissa⟩ := hnotation _ _ _ hx hxs true
  have hpart : numberPart "1.23 k(k e3)" = "1.23" := by decide
  rw [hpart] at hnumber hmantissa
  exact ⟨hxs, hys, (hpair _ _ _ _ _ hx hy hxs hys).1, hmantissa, s, hs, hnumber⟩

end Parts

end Engineering

end Metrology
