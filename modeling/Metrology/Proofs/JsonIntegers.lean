import Mathlib.Data.List.TakeWhile
import Metrology.Proofs.JsonWriting

namespace Metrology

namespace Json

section Blanks

variable {before cs : List Char}

def Blank (cs : List Char) : Prop :=
  ∀ c ∈ cs, isBlank c = true

theorem exists_blank_append_skipBlanks (cs : List Char) :
    ∃ before, Blank before ∧ cs = before ++ skipBlanks cs :=
  ⟨cs.takeWhile isBlank, fun _ => List.mem_takeWhile_imp, List.takeWhile_append_dropWhile.symm⟩

theorem skipBlanks_append (hbefore : Blank before) (cs : List Char) :
    skipBlanks (before ++ cs) = skipBlanks cs :=
  List.dropWhile_append_of_pos hbefore

theorem skipBlanks_eq_nil_iff : skipBlanks cs = [] ↔ Blank cs :=
  List.dropWhile_eq_nil_iff

end Blanks

namespace Literal

variable {cs ds rest : List Char} {negative : Bool} {l : Literal} {n : Int}

section Digits

theorem any_isDigit_head?_dropWhile (cs : List Char) :
    (cs.dropWhile Char.isDigit).head?.any Char.isDigit = false := by
  induction cs with
  | nil => rfl
  | cons c cs ih => by_cases hc : c.isDigit = true <;> simp [hc, ih]

theorem scanDigits?_eq_some_iff :
    scanDigits? cs = some (ds, rest) ↔
      ds ≠ [] ∧ (∀ c ∈ ds, c.isDigit = true) ∧ cs = ds ++ rest ∧
        rest.head?.any Char.isDigit = false := by
  constructor
  · intro h
    simp only [scanDigits?, scanDigits, List.isEmpty_iff] at h
    split at h
    · cases h
    · rename_i hne
      obtain ⟨rfl, rfl⟩ := Prod.mk.inj (Option.some.inj h)
      exact ⟨hne, fun _ => List.mem_takeWhile_imp, List.takeWhile_append_dropWhile.symm,
        any_isDigit_head?_dropWhile cs⟩
  · rintro ⟨hne, hds, rfl, hrest⟩
    obtain ⟨htake, hdrop⟩ := span_word (List.all_eq_true.mpr hds) hrest
    simp [scanDigits?, scanDigits, htake, hdrop, hne]

/-- Digits, without leading zeros. -/
structure IsNumeral (ds : List Char) : Prop where
  ne_nil : ds ≠ []
  isDigit : ∀ c ∈ ds, c.isDigit = true
  leading : ds.head? = some '0' → ds = ['0']

theorem IsNumeral.exists_cons (h : IsNumeral ds) : ∃ c cs, ds = c :: cs ∧ c.isDigit = true := by
  cases ds with
  | nil => exact absurd rfl h.ne_nil
  | cons c cs => exact ⟨c, cs, rfl, h.isDigit c (by simp)⟩

theorem isNumeral_digits (n : Nat) : IsNumeral (Decimal.digits n) where
  ne_nil := Decimal.digits_ne_nil n
  isDigit _ := Decimal.isDigit_of_mem_digits
  leading h := by
    rw [Decimal.eq_zero_of_head?_digits h]
    rfl

theorem scanWhole_eq_some_iff :
    scanWhole cs = some (ds, rest) ↔
      IsNumeral ds ∧ cs = ds ++ rest ∧ rest.head?.any Char.isDigit = false := by
  constructor
  · intro h
    obtain ⟨⟨ds', rest'⟩, hscan, hleading⟩ := Option.bind_eq_some_iff.mp h
    dsimp only at hleading
    split at hleading
    · cases hleading
    · rename_i hzero
      obtain ⟨rfl, rfl⟩ := Prod.mk.inj (Option.some.inj hleading)
      obtain ⟨hne, hds, hcs, hrest⟩ := scanDigits?_eq_some_iff.mp hscan
      refine ⟨⟨hne, hds, fun hhead => ?_⟩, hcs, hrest⟩
      by_contra hother
      exact hzero ⟨hhead, hother⟩
  · rintro ⟨hds, hcs, hrest⟩
    have hscan := scanDigits?_eq_some_iff.mpr ⟨hds.ne_nil, hds.isDigit, hcs, hrest⟩
    have hleading : ¬ (ds.head? = some '0' ∧ ds ≠ ['0']) := fun h => h.2 (hds.leading h.1)
    simp [scanWhole, hscan, hleading]

end Digits

section Plain

theorem scanFraction_eq_none_iff :
    scanFraction cs = some (none, rest) ↔ rest = cs ∧ ∀ c ∈ cs.head?, c ≠ '.' := by
  cases cs with
  | nil => simp [scanFraction]
  | cons c cs =>
      unfold scanFraction
      split
      · rename_i hcs
        obtain ⟨rfl, rfl⟩ := List.cons.inj hcs
        simp [Option.bind_eq_some_iff]
      · rename_i hpoint
        have hc : c ≠ '.' := by
          rintro rfl
          exact hpoint cs rfl
        simp [hc, eq_comm]

theorem scanExponent_eq_none_iff :
    scanExponent cs = some (none, rest) ↔ rest = cs ∧ ∀ c ∈ cs.head?, c ≠ 'e' ∧ c ≠ 'E' := by
  cases cs with
  | nil => simp [scanExponent]
  | cons c cs =>
      unfold scanExponent
      split
      · rename_i hcs
        obtain ⟨rfl, rfl⟩ := List.cons.inj hcs
        simp [Option.bind_eq_some_iff]
      · rename_i hcs
        obtain ⟨rfl, rfl⟩ := List.cons.inj hcs
        simp [Option.bind_eq_some_iff]
      · rename_i hsmall hlarge
        have hc : c ≠ 'e' ∧ c ≠ 'E' := by
          constructor
          · rintro rfl
            exact hsmall cs rfl
          · rintro rfl
            exact hlarge cs rfl
        simp [hc, eq_comm]

theorem ends_iff :
    Ends rest ↔ rest.head?.any Char.isDigit = false ∧ (∀ c ∈ rest.head?, c ≠ '.') ∧
      ∀ c ∈ rest.head?, c ≠ 'e' ∧ c ≠ 'E' := by
  cases rest with
  | nil => simp [Ends]
  | cons c rest => simp [Ends]

theorem scanUnsigned_eq_some_iff {negative' : Bool} :
    scanUnsigned negative cs = some (⟨negative', ds, none, none⟩, rest) ↔
      negative' = negative ∧ IsNumeral ds ∧ cs = ds ++ rest ∧ Ends rest := by
  rw [ends_iff]
  constructor
  · intro h
    obtain ⟨⟨whole, cs₁⟩, hwhole, h⟩ := Option.bind_eq_some_iff.mp h
    obtain ⟨⟨fraction, cs₂⟩, hfraction, h⟩ := Option.bind_eq_some_iff.mp h
    obtain ⟨⟨exponent, cs₃⟩, hexponent, h⟩ := Option.bind_eq_some_iff.mp h
    simp only [Option.some.injEq, Prod.mk.injEq, mk.injEq] at h
    obtain ⟨⟨rfl, rfl, rfl, rfl⟩, rfl⟩ := h
    obtain ⟨rfl, hpoint⟩ := scanFraction_eq_none_iff.mp hfraction
    obtain ⟨rfl, hmark⟩ := scanExponent_eq_none_iff.mp hexponent
    obtain ⟨hds, hcs, hdigit⟩ := scanWhole_eq_some_iff.mp hwhole
    exact ⟨rfl, hds, hcs, hdigit, hpoint, hmark⟩
  · rintro ⟨rfl, hds, hcs, hdigit, hpoint, hmark⟩
    have hwhole := scanWhole_eq_some_iff.mpr ⟨hds, hcs, hdigit⟩
    have hfraction := scanFraction_eq_none_iff.mpr ⟨rfl, hpoint⟩
    have hexponent := scanExponent_eq_none_iff.mpr ⟨rfl, hmark⟩
    simp [scanUnsigned, hwhole, hfraction, hexponent]

/-- The digits of a literal with its sign. -/
def signedDigits (negative : Bool) (ds : List Char) : List Char :=
  if negative then '-' :: ds else ds

theorem IsNumeral.head?_ne (h : IsNumeral ds) (rest : List Char) :
    (ds ++ rest).head? ≠ some '-' := by
  obtain ⟨c, cs, rfl, hc⟩ := h.exists_cons
  simp only [List.cons_append, List.head?_cons, ne_eq, Option.some.injEq]
  rintro rfl
  exact absurd hc (by decide)

theorem scan_eq_some_iff :
    scan cs = some (⟨negative, ds, none, none⟩, rest) ↔
      IsNumeral ds ∧ cs = signedDigits negative ds ++ rest ∧ Ends rest := by
  unfold scan
  split
  · rename_i cs
    rw [scanUnsigned_eq_some_iff]
    cases negative with
    | true => simp [signedDigits]
    | false =>
        simp only [Bool.false_eq_true, false_and, false_iff]
        rintro ⟨hds, hcs, -⟩
        exact hds.head?_ne rest (congrArg List.head? hcs).symm
  · rename_i hminus
    rw [scanUnsigned_eq_some_iff]
    cases negative with
    | true =>
        simp only [Bool.true_eq_false, false_and, false_iff]
        rintro ⟨-, hcs, -⟩
        exact hminus _ hcs
    | false => simp [signedDigits]

end Plain

section Spelled

/-- The text spells the integer: digits after an optional minus sign. -/
inductive Spells : List Char → Int → Prop
  | natural {ds : List Char} (h : IsNumeral ds) : Spells ds (digitsValue ds)
  | negative {ds : List Char} (h : IsNumeral ds) : Spells ('-' :: ds) (-(digitsValue ds : Int))

theorem spells_iff {literal : List Char} :
    Spells literal n ↔ ∃ negative ds, IsNumeral ds ∧ literal = signedDigits negative ds ∧
      (⟨negative, ds, none, none⟩ : Literal).integer? = some n := by
  constructor
  · rintro (hds | hds)
    · exact ⟨false, _, hds, rfl, rfl⟩
    · exact ⟨true, _, hds, rfl, rfl⟩
  · rintro ⟨negative, ds, hds, rfl, hn⟩
    obtain rfl := Option.some.inj hn
    cases negative with
    | false => exact .natural hds
    | true => exact .negative hds

theorem Spells.begins {literal : List Char} (h : Spells literal n) :
    ∃ c cs, literal = c :: cs ∧ Begins c := by
  cases h with
  | natural hds =>
      obtain ⟨c, cs, rfl, hc⟩ := hds.exists_cons
      exact ⟨c, cs, rfl, .inr hc⟩
  | negative hds => exact ⟨'-', _, rfl, .inl rfl⟩

theorem toList_signed_eq_signedDigits (n : Int) :
    (Decimal.signed false n).toList =
      signedDigits (decide (n < 0)) (Decimal.digits n.natAbs) := by
  simp [Decimal.toList_signed, signedDigits]

theorem spells_signed (n : Int) : Spells (Decimal.signed false n).toList n := by
  rw [toList_signed_eq_signedDigits, spells_iff]
  exact ⟨_, _, isNumeral_digits n.natAbs, rfl, integer?_ofInt n⟩

theorem exists_eq_of_integer? (h : l.integer? = some n) :
    ∃ negative ds, l = ⟨negative, ds, none, none⟩ := by
  rcases l with ⟨negative, ds, fraction, exponent⟩
  cases fraction <;> cases exponent <;> simp [integer?] at h ⊢

theorem ofDigitChars_pos {init : Nat} (h : 0 < init) (ds : List Char) :
    0 < Nat.ofDigitChars 10 ds init := by
  induction ds generalizing init with
  | nil => exact h
  | cons c ds ih =>
      rw [Nat.ofDigitChars_cons]
      exact ih (by omega)

theorem IsNumeral.eq_zero (h : IsNumeral ds) (hvalue : digitsValue ds = 0) : ds = ['0'] := by
  apply h.leading
  obtain ⟨c, cs, rfl, hc⟩ := h.exists_cons
  by_contra hne
  have hlow := (Char.isDigit_iff_toNat.mp hc).1
  have hcode : c.toNat ≠ '0'.toNat := fun heq => hne (congrArg some (Char.toNat_inj.mp heq))
  have hpos : 0 < 10 * 0 + (c.toNat - '0'.toNat) := by omega
  have hvalue' := ofDigitChars_pos hpos cs
  rw [digitsValue, Nat.ofDigitChars_cons] at hvalue
  omega

theorem signedDigits_eq_minus_zero_iff (hds : IsNumeral ds)
    (h : (⟨negative, ds, none, none⟩ : Literal).integer? = some n) :
    signedDigits negative ds = ['-', '0'] ↔ negative = true ∧ n = 0 := by
  obtain rfl := Option.some.inj h
  cases negative with
  | false =>
      simp only [signedDigits, Bool.false_eq_true, if_false, false_and, iff_false]
      rintro rfl
      exact absurd (hds.isDigit '-' (by simp)) (by decide)
  | true =>
      simp only [signedDigits, if_true, List.cons.injEq, true_and]
      constructor
      · rintro rfl
        rfl
      · intro hvalue
        exact hds.eq_zero (by omega)

end Spelled

section Range

variable {k : IntegerKind} {x : BoundedInt k}

theorem nonpos_of_negative (h : l.integer? = some n) (hnegative : l.negative = true) : n ≤ 0 := by
  obtain ⟨negative, ds, rfl⟩ := exists_eq_of_integer? h
  obtain rfl : negative = true := hnegative
  obtain rfl := Option.some.inj h
  simp

theorem integer64?_eq_some_iff :
    l.integer64? = some n ↔ l.integer? = some n ∧
      if l.negative then IntegerKind.int64.min ≤ n ∧ n < 0 else n ≤ IntegerKind.uint64.max := by
  unfold integer64?
  cases hinteger : l.integer? with
  | none => simp
  | some m =>
      rw [Option.ite_none_right_eq_some, Option.some.injEq, and_comm]
      refine and_congr_right fun hm => ?_
      subst hm
      split <;> simp

theorem inRange_eq_ok_iff {e : ReadError} :
    (match BoundedInt.ofInt? k n with
      | some a => Except.ok a
      | none => .error e) = .ok x ↔ n = x.val := by
  rw [eq_comm (a := n), ← BoundedInt.ofInt?_eq_some_iff]
  cases BoundedInt.ofInt? k n <;> simp

theorem readNarrow_eq_ok_iff : readNarrow k (.number l) = .ok x ↔ l.integer64? = some x.val := by
  cases hinteger : l.integer64? with
  | none => simp [readNarrow, hinteger]
  | some n =>
      simp only [readNarrow, hinteger, Option.some.injEq]
      exact inRange_eq_ok_iff

theorem readWide_eq_ok_iff :
    readWide k (.number l) = .ok x ↔
      l.integer? = some x.val ∧ (l.negative = true → k.signed = true) := by
  cases hinteger : l.integer? with
  | none => simp [readWide, hinteger]
  | some n =>
      simp only [readWide, hinteger, Option.some.injEq, Bool.and_eq_true, Bool.not_eq_true']
      split
      · rename_i hsign
        simp [hsign]
      · rename_i hsign
        have hsigned : l.negative = true → k.signed = true := by
          intro hnegative
          by_contra hk
          exact hsign ⟨hnegative, Bool.eq_false_iff.mpr hk⟩
        exact inRange_eq_ok_iff.trans (and_iff_left hsigned).symm

/-- An integer is read from a literal of digits alone that is in range. A minus sign before zero
is read in one kind only. -/
theorem readInteger_eq_ok_iff :
    readInteger k (.number l) = .ok x ↔ l.integer? = some x.val ∧
      (l.negative = true → x.val = 0 → k.signed = true ∧ k.bits = 128) := by
  unfold readInteger
  split
  · rename_i hk
    rw [readWide_eq_ok_iff]
    refine and_congr_right fun hinteger => ?_
    simp only [hk, and_true]
    refine ⟨fun h hnegative _ => h hnegative, fun h hnegative => ?_⟩
    by_cases hzero : x.val = 0
    · exact h hnegative hzero
    · -- Without a sign nothing is below zero, so that the minus stands before a zero.
      by_contra hunsigned
      have hmin := x.min_le
      simp only [IntegerKind.min, hunsigned] at hmin
      have hle := nonpos_of_negative hinteger hnegative
      simp at hmin
      omega
  · rename_i hk
    rw [readNarrow_eq_ok_iff, integer64?_eq_some_iff]
    refine and_congr_right fun hinteger => ?_
    obtain ⟨hmin, hmax⟩ := IntegerKind.range_of_bits_ne hk
    have hlow := x.min_le
    have hhigh := x.le_max
    cases hnegative : l.negative with
    | false =>
        simp only [Bool.false_eq_true, if_false, false_imp_iff, iff_true]
        omega
    | true =>
        have hle := nonpos_of_negative hinteger hnegative
        simp only [if_true, hk, and_false, true_imp_iff, imp_false]
        omega

theorem exists_number_of_readInteger {c : Content} (h : readInteger k c = .ok x) :
    ∃ l, c = .number l := by
  cases c with
  | number l => exact ⟨l, rfl⟩
  | _ =>
      unfold readInteger at h
      split at h <;> cases h

end Range

theorem begins_of_scan (h : scan cs = some (l, rest)) : ∃ c cs', cs = c :: cs' ∧ Begins c := by
  unfold scan at h
  split at h
  · exact ⟨_, _, rfl, .inl rfl⟩
  · obtain ⟨⟨whole, cs₁⟩, hwhole, -⟩ := Option.bind_eq_some_iff.mp h
    obtain ⟨hds, rfl, -⟩ := scanWhole_eq_some_iff.mp hwhole
    obtain ⟨c, ds, rfl, hc⟩ := hds.exists_cons
    exact ⟨c, ds ++ cs₁, rfl, .inr hc⟩

end Literal

namespace Content

variable {cs rest : List Char} {c : Content} {l : Literal}

theorem scan_cases (h : scan cs = some (c, rest)) :
    match c with
    | .null => cs = 'n' :: 'u' :: 'l' :: 'l' :: rest
    | .boolean true => cs = 't' :: 'r' :: 'u' :: 'e' :: rest
    | .boolean false => cs = 'f' :: 'a' :: 'l' :: 's' :: 'e' :: rest
    | .number l => Literal.scan cs = some (l, rest)
    | .text s => ∃ cs', cs = '"' :: cs' ∧ Text.scan cs' = some (s, rest)
    | .sequence => cs = '[' :: rest
    | .map => cs = '\x7b' :: rest := by
  unfold scan at h
  split at h
  case h_4 cs' =>
    obtain ⟨⟨s, rest'⟩, hscan, hfound⟩ := Option.map_eq_some_iff.mp h
    obtain ⟨rfl, rfl⟩ := Prod.mk.inj hfound
    exact ⟨cs', rfl, hscan⟩
  case h_7 =>
    obtain ⟨⟨l, rest'⟩, hscan, hfound⟩ := Option.map_eq_some_iff.mp h
    obtain ⟨rfl, rfl⟩ := Prod.mk.inj hfound
    exact hscan
  all_goals
    obtain ⟨rfl, rfl⟩ := Prod.mk.inj (Option.some.inj h)
    rfl

theorem scan_eq_number_iff :
    scan cs = some (.number l, rest) ↔ Literal.scan cs = some (l, rest) := by
  refine ⟨scan_cases, fun h => ?_⟩
  obtain ⟨c, cs', rfl, hc⟩ := Literal.begins_of_scan h
  rw [scan_of_begins cs' hc, h]
  rfl

theorem scan_eq_sequence_iff : scan cs = some (.sequence, rest) ↔ cs = '[' :: rest := by
  refine ⟨scan_cases, ?_⟩
  rintro rfl
  rfl

end Content

section Text

variable {k : IntegerKind} {x : BoundedInt k} {cs rest literal : List Char} {n : Int}

/-- The text is a literal of the kind: it spells an integer, and is not zero with a minus sign.
Only signed integers of 128 bits can be that. -/
structure IsLiteral (k : IntegerKind) (literal : List Char) (n : Int) : Prop where
  spells : Literal.Spells literal n
  zero : literal = ['-', '0'] → k.signed = true ∧ k.bits = 128

theorem isLiteral_signed (k : IntegerKind) (n : Int) :
    IsLiteral k (Decimal.signed false n).toList n where
  spells := Literal.spells_signed n
  zero h := by
    rw [Literal.toList_signed_eq_signedDigits, Literal.signedDigits_eq_minus_zero_iff
      (Literal.isNumeral_digits _) (Literal.integer?_ofInt n), decide_eq_true_eq] at h
    omega

theorem readInteger_scan_iff :
    (∃ c, Content.scan cs = some (c, rest) ∧ readInteger k c = .ok x) ↔
      ∃ literal, IsLiteral k literal x.val ∧ cs = literal ++ rest ∧ Literal.Ends rest := by
  constructor
  · rintro ⟨c, hscan, hread⟩
    obtain ⟨l, rfl⟩ := Literal.exists_number_of_readInteger hread
    obtain ⟨hinteger, hzero⟩ := Literal.readInteger_eq_ok_iff.mp hread
    obtain ⟨negative, ds, rfl⟩ := Literal.exists_eq_of_integer? hinteger
    rw [Content.scan_eq_number_iff, Literal.scan_eq_some_iff] at hscan
    obtain ⟨hds, hcs, hrest⟩ := hscan
    refine ⟨_, ⟨Literal.spells_iff.mpr ⟨_, _, hds, rfl, hinteger⟩, fun hminus => ?_⟩, hcs, hrest⟩
    obtain ⟨hnegative, hvalue⟩ := (Literal.signedDigits_eq_minus_zero_iff hds hinteger).mp hminus
    exact hzero hnegative hvalue
  · rintro ⟨literal, ⟨hspells, hzero⟩, rfl, hrest⟩
    obtain ⟨negative, ds, hds, rfl, hinteger⟩ := Literal.spells_iff.mp hspells
    refine ⟨.number ⟨negative, ds, none, none⟩, ?_, ?_⟩
    · rw [Content.scan_eq_number_iff, Literal.scan_eq_some_iff]
      exact ⟨hds, rfl, hrest⟩
    · rw [Literal.readInteger_eq_ok_iff]
      refine ⟨hinteger, fun hnegative hvalue => hzero ?_⟩
      exact (Literal.signedDigits_eq_minus_zero_iff hds hinteger).mpr ⟨hnegative, hvalue⟩

end Text

end Json

end Metrology
