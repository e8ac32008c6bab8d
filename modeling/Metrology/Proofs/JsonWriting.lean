import Metrology.Json.Read
import Metrology.Number.Basic
import Metrology.Text.Word

namespace Metrology

namespace IntegerKind

theorem mem_all (k : IntegerKind) : k ∈ all := by
  rcases k with ⟨_ | _, w⟩ <;> cases w <;> decide

/-- Integers of less than 128 bits are those of 64 bits, with or without a sign, or fewer. -/
theorem range_of_bits_ne {k : IntegerKind} (hk : k.bits ≠ 128) :
    int64.min ≤ k.min ∧ k.max ≤ uint64.max := by
  have hall : ∀ k ∈ all, k.bits ≠ 128 → int64.min ≤ k.min ∧ k.max ≤ uint64.max := by
    decide
  exact hall k k.mem_all hk

end IntegerKind

namespace Decimal

theorem isDigit_of_mem_digits {n : Nat} {c : Char} (h : c ∈ digits n) : c.isDigit = true := by
  unfold digits at h
  rw [Nat.toList_repr] at h
  exact Nat.isDigit_of_mem_toDigits (by decide) (by decide) h

theorem digits_ne_nil (n : Nat) : digits n ≠ [] := by
  unfold digits
  rw [Nat.toList_repr]
  exact Nat.toDigits_ne_nil

/-- Only zero is written with a leading zero. -/
theorem eq_zero_of_head?_digits {n : Nat} (h : (digits n).head? = some '0') : n = 0 := by
  unfold digits at h
  rw [Nat.toList_repr] at h
  induction n using Nat.strongRecOn with
  | ind n ih =>
      rw [Nat.toDigits_eq_if (by decide)] at h
      split at h
      · rename_i hsmall
        have hdigits : ∀ m < 10, [Nat.digitChar m].head? = some '0' → m = 0 := by decide
        exact hdigits n hsmall h
      · cases hleading : Nat.toDigits 10 (n / 10) with
        | nil => exact absurd hleading Nat.toDigits_ne_nil
        | cons c cs =>
            rw [hleading] at h
            have hquotient := ih (n / 10) (by omega) (hleading ▸ h)
            omega

theorem toList_signed (n : Int) :
    (signed false n).toList = if n < 0 then '-' :: digits n.natAbs else digits n.natAbs := by
  unfold signed digits
  split <;> simp

end Decimal

namespace Json

namespace Literal

theorem digitsValue_digits (n : Nat) : digitsValue (Decimal.digits n) = n := by
  unfold digitsValue Decimal.digits
  rw [Nat.toList_repr]
  exact Nat.ofDigitChars_ten_toDigits

theorem digitsValue_zeros_append (zeros : Nat) (ds : List Char) :
    digitsValue (List.replicate zeros '0' ++ ds) = digitsValue ds := by
  unfold digitsValue
  rw [Nat.ofDigitChars_append, Nat.ofDigitChars_replicate_zero, Nat.mul_zero]

theorem digitsValue_append_zero (ds : List Char) :
    digitsValue (ds ++ ['0']) = 10 * digitsValue ds := by
  unfold digitsValue
  rw [Nat.ofDigitChars_append, Nat.ofDigitChars_cons]
  rfl

/-- The text does not prolong a number before it. -/
def Ends (rest : List Char) : Prop :=
  ∀ c ∈ rest.head?, c.isDigit = false ∧ c ≠ '.' ∧ c ≠ 'e' ∧ c ≠ 'E'

theorem scanDigits_append {ds rest : List Char} (hds : ∀ c ∈ ds, c.isDigit = true)
    (hrest : Ends rest) : scanDigits (ds ++ rest) = (ds, rest) := by
  have hstop : rest.head?.any Char.isDigit = false := by
    cases rest with
    | nil => rfl
    | cons c cs => exact (hrest c rfl).1
  obtain ⟨htake, hdrop⟩ := span_word (List.all_eq_true.mpr hds) hstop
  unfold scanDigits
  rw [htake, hdrop]

theorem scanWhole_digits (n : Nat) {rest : List Char} (hrest : Ends rest) :
    scanWhole (Decimal.digits n ++ rest) = some (Decimal.digits n, rest) := by
  have hleading : ¬ ((Decimal.digits n).head? = some '0' ∧ Decimal.digits n ≠ ['0']) := by
    rintro ⟨hhead, hne⟩
    rw [Decimal.eq_zero_of_head?_digits hhead] at hne
    exact hne rfl
  unfold scanWhole scanDigits?
  rw [scanDigits_append (fun _ => Decimal.isDigit_of_mem_digits) hrest]
  simp [Decimal.digits_ne_nil, hleading]

theorem scanFraction_of_ends {rest : List Char} (hrest : Ends rest) :
    scanFraction rest = some (none, rest) := by
  unfold scanFraction
  split
  · exact absurd rfl (hrest '.' rfl).2.1
  · rfl

theorem scanExponent_of_ends {rest : List Char} (hrest : Ends rest) :
    scanExponent rest = some (none, rest) := by
  unfold scanExponent
  split
  · exact absurd rfl (hrest 'e' rfl).2.2.1
  · exact absurd rfl (hrest 'E' rfl).2.2.2
  · rfl

theorem scanUnsigned_digits (negative : Bool) (n : Nat) {rest : List Char} (hrest : Ends rest) :
    scanUnsigned negative (Decimal.digits n ++ rest) =
      some (⟨negative, Decimal.digits n, none, none⟩, rest) := by
  unfold scanUnsigned
  rw [scanWhole_digits n hrest]
  simp [scanFraction_of_ends hrest, scanExponent_of_ends hrest]

def ofInt (n : Int) : Literal :=
  ⟨decide (n < 0), Decimal.digits n.natAbs, none, none⟩

theorem integer?_ofInt (n : Int) : (ofInt n).integer? = some n := by
  unfold integer? ofInt
  simp only [digitsValue_digits, decide_eq_true_eq]
  split
  · rw [Option.some.injEq]
    omega
  · rw [Option.some.injEq]
    omega

theorem scan_signed (n : Int) {rest : List Char} (hrest : Ends rest) :
    scan ((Decimal.signed false n).toList ++ rest) = some (ofInt n, rest) := by
  rw [Decimal.toList_signed]
  unfold ofInt
  by_cases hn : n < 0
  · rw [if_pos hn, decide_eq_true hn]
    exact scanUnsigned_digits true n.natAbs hrest
  · rw [if_neg hn, decide_eq_false hn]
    have hunsigned := scanUnsigned_digits false n.natAbs hrest
    cases hdigits : Decimal.digits n.natAbs with
    | nil => exact absurd hdigits (Decimal.digits_ne_nil _)
    | cons c cs =>
        have hc : c.isDigit = true := Decimal.isDigit_of_mem_digits (hdigits ▸ List.mem_cons_self)
        rw [hdigits] at hunsigned
        rw [List.cons_append] at hunsigned ⊢
        rw [scan.eq_2 _ (fun _ hminus => by simp_all)]
        exact hunsigned

def Begins (c : Char) : Prop :=
  c = '-' ∨ c.isDigit = true

theorem begins_signed (n : Int) :
    ∃ c cs, (Decimal.signed false n).toList = c :: cs ∧ Begins c := by
  rw [Decimal.toList_signed]
  by_cases hn : n < 0
  · rw [if_pos hn]
    exact ⟨'-', Decimal.digits n.natAbs, rfl, .inl rfl⟩
  · rw [if_neg hn]
    cases hdigits : Decimal.digits n.natAbs with
    | nil => exact absurd hdigits (Decimal.digits_ne_nil _)
    | cons c cs =>
        exact ⟨c, cs, rfl, .inr (Decimal.isDigit_of_mem_digits (hdigits ▸ List.mem_cons_self))⟩

theorem Begins.ne {c d : Char} (h : Begins c) (hd : d ≠ '-' ∧ d.isDigit = false) : c ≠ d := by
  rintro rfl
  rcases h with hminus | hdigit
  · exact hd.1 hminus
  · rw [hd.2] at hdigit
    simp at hdigit

end Literal

theorem skipBlanks_cons {c : Char} {cs : List Char} (h : isBlank c = false) :
    skipBlanks (c :: cs) = c :: cs := by
  simp [skipBlanks, h]

theorem isBlank_of_begins {c : Char} (h : Literal.Begins c) : isBlank c = false := by
  simp [isBlank, h.ne]

/-- A value that begins like a number is one. -/
theorem Content.scan_of_begins {c : Char} (cs : List Char) (h : Literal.Begins c) :
    Content.scan (c :: cs) = (Literal.scan (c :: cs)).map fun (l, rest) => (.number l, rest) := by
  rw [Content.scan.eq_7]
  all_goals
    intro rest hrest
    refine h.ne ?_ (List.cons.inj hrest).1
    decide

theorem Content.scan_signed (n : Int) {rest : List Char} (hrest : Literal.Ends rest) :
    Content.scan ((Decimal.signed false n).toList ++ rest) =
      some (.number (Literal.ofInt n), rest) := by
  obtain ⟨c, cs, hcs, hc⟩ := Literal.begins_signed n
  have hscan := Literal.scan_signed n hrest
  rw [hcs, List.cons_append] at hscan ⊢
  rw [Content.scan_of_begins _ hc, hscan]
  rfl

theorem skipBlanks_signed (n : Int) (rest : List Char) :
    skipBlanks ((Decimal.signed false n).toList ++ rest) =
      (Decimal.signed false n).toList ++ rest := by
  obtain ⟨c, cs, hcs, hc⟩ := Literal.begins_signed n
  rw [hcs, List.cons_append]
  exact skipBlanks_cons (isBlank_of_begins hc)

theorem integer64?_ofInt {k : IntegerKind} (hk : k.bits ≠ 128) (x : BoundedInt k) :
    (Literal.ofInt x.val).integer64? = some x.val := by
  obtain ⟨hmin, hmax⟩ := IntegerKind.range_of_bits_ne hk
  have hlow : IntegerKind.int64.min ≤ x.val := Int.le_trans hmin x.min_le
  have hhigh : x.val ≤ IntegerKind.uint64.max := Int.le_trans x.le_max hmax
  unfold Literal.integer64?
  rw [Literal.integer?_ofInt]
  by_cases hn : x.val < 0
  · simp [Literal.ofInt, hn, hlow]
  · simp [Literal.ofInt, hn, hhigh]

theorem readInteger_ofInt {k : IntegerKind} (x : BoundedInt k) :
    readInteger k (.number (Literal.ofInt x.val)) = .ok x := by
  unfold readInteger
  split
  · unfold readWide
    have hsign : ((Literal.ofInt x.val).negative && !k.signed) = false := by
      cases hk : k.signed with
      | true => simp
      | false =>
          have hmin := x.min_le
          simp only [IntegerKind.min, hk] at hmin
          simpa [Literal.ofInt] using hmin
    simp [Literal.integer?_ofInt, hsign]
  · rename_i hk
    unfold readNarrow
    simp [integer64?_ofInt hk]

namespace Text

def prepend (p : Piece) (found : Option (List Piece × List Char)) :
    Option (List Piece × List Char) :=
  found.map fun (ps, rest) => (p :: ps, rest)

theorem pieces_plain {c : Char} (cs : List Char) (hquote : c ≠ '"') (hslash : c ≠ '\\')
    (hcontrol : ¬ c.toNat < 0x20) : pieces (c :: cs) = prepend (.char c) (pieces cs) := by
  rw [pieces.eq_5 _ _ (by simp_all) (by simp_all) (by simp_all), if_neg (by simp_all)]
  cases pieces cs <;> rfl

theorem pieces_escaped {c d : Char} (cs : List Char) (h : escaped? d = some c) :
    pieces ('\\' :: d :: cs) = prepend (.char c) (pieces cs) := by
  have hd : d ≠ 'u' := by
    rintro rfl
    simp [escaped?] at h
  rw [pieces.eq_4 _ _ (by simp_all), h]
  cases pieces cs <;> rfl

theorem pieces_control {n : Nat} (cs : List Char) (h : n < 0x20) :
    pieces ("\\u00".toList ++ [Nat.digitChar (n / 16), Nat.digitChar (n % 16)] ++ cs) =
      prepend (.unit n) (pieces cs) := by
  have hunit : ∀ m < 0x20,
      unit? '0' '0' (Nat.digitChar (m / 16)) (Nat.digitChar (m % 16)) = some (.unit m) := by
    decide
  change pieces ('\\' :: 'u' :: '0' :: '0' :: _ :: _ :: cs) = _
  rw [pieces.eq_3, hunit n h]
  cases pieces cs <;> rfl

theorem join_control {n : Nat} (ps : List Piece) (h : n < 0x20) :
    join (.unit n :: ps) = (join ps).map (Char.ofNat n :: ·) := by
  have hhigh : isHighSurrogate n = false := by
    simp [isHighSurrogate, show ¬ 0xd800 ≤ n by omega]
  have hlow : isLowSurrogate n = false := by
    simp [isLowSurrogate, show ¬ 0xdc00 ≤ n by omega]
  rw [join.eq_def]
  simp [hhigh, hlow]

/-- A character is written as one piece, which stands for it. -/
theorem pieces_escape (c : Char) (cs : List Char) :
    ∃ p, pieces (escape c ++ cs) = prepend p (pieces cs) ∧
      ∀ ps, join (p :: ps) = (join ps).map (c :: ·) := by
  unfold escape
  split
  case h_8 hquote hslash _ _ _ _ _ =>
    split
    · rename_i hcontrol
      refine ⟨.unit c.toNat, pieces_control cs hcontrol, fun ps => ?_⟩
      rw [join_control ps hcontrol, Char.ofNat_toNat]
    · rename_i hcontrol
      exact ⟨.char c, pieces_plain cs hquote hslash hcontrol, fun _ => by rw [join]⟩
  all_goals exact ⟨.char _, pieces_escaped cs rfl, fun _ => by rw [join]⟩

theorem pieces_flatMap_escape (text rest : List Char) :
    ∃ ps, pieces (text.flatMap escape ++ '"' :: rest) = some (ps, rest) ∧
      join ps = some text := by
  induction text with
  | nil => exact ⟨[], by simp [pieces], rfl⟩
  | cons c text ih =>
      obtain ⟨ps, hps, hjoin⟩ := ih
      obtain ⟨p, hp, hfirst⟩ := pieces_escape c (text.flatMap escape ++ '"' :: rest)
      refine ⟨p :: ps, ?_, ?_⟩
      · rw [List.flatMap_cons, List.append_assoc, hp, hps]
        rfl
      · rw [hfirst, hjoin]
        rfl

theorem scan_escape (text : String) (rest : List Char) :
    scan (text.toList.flatMap escape ++ '"' :: rest) = some (text, rest) := by
  obtain ⟨ps, hps, hjoin⟩ := pieces_flatMap_escape text.toList rest
  simp [scan, hps, hjoin]

end Text

theorem scanValue_cons {cs rest : List Char} {value : Content} (hcs : skipBlanks cs = cs)
    (hvalue : Content.scan cs = some (value, rest)) :
    scanValue (':' :: cs) = some (value, rest) := by
  unfold scanValue
  rw [skipBlanks_cons (by decide)]
  simp only [hcs, hvalue]

namespace Members

variable {cs rest : List Char} {value : Content}

/-- An entry as it is written: the first one follows the bracket and every other one a comma. -/
def entryText (first : Bool) (key : String) (cs : List Char) : List Char :=
  (if first then [] else [',']) ++ '"' :: key.toList.flatMap Text.escape ++ '"' :: ':' :: cs

theorem scan_entryText (fuel : Nat) (first : Bool) (key : String) (hcs : skipBlanks cs = cs)
    (hvalue : Content.scan cs = some (value, rest)) :
    Members.scan (fuel + 1) first (entryText first key cs) =
      .entry key (some value) (Members.scan fuel false rest) := by
  have hkey := Text.scan_escape key (':' :: cs)
  have hentry := scanValue_cons hcs hvalue
  cases first with
  | true =>
      change Members.scan (fuel + 1) true
        ('"' :: (key.toList.flatMap Text.escape ++ '"' :: ':' :: cs)) = _
      rw [Members.scan, skipBlanks_cons (by decide)]
      simp [nextItem, hkey, hentry]
  | false =>
      change Members.scan (fuel + 1) false
        (',' :: '"' :: (key.toList.flatMap Text.escape ++ '"' :: ':' :: cs)) = _
      rw [Members.scan, skipBlanks_cons (by decide)]
      simp [nextItem, skipBlanks_cons (show isBlank '"' = false by decide), hkey, hentry]

theorem scan_closed (fuel : Nat) (first : Bool) (rest : List Char) :
    Members.scan (fuel + 1) first ('\x7d' :: rest) = .closed rest := by
  rw [Members.scan, skipBlanks_cons (by decide)]
  rfl

end Members

theorem Content.scan_text (text : String) (rest : List Char) :
    Content.scan ((Text.write text).toList ++ rest) = some (.text text, rest) := by
  have hscan := Text.scan_escape text rest
  simp [Text.write, Content.scan, hscan]

theorem skipBlanks_text (text : String) (rest : List Char) :
    skipBlanks ((Text.write text).toList ++ rest) = (Text.write text).toList ++ rest := by
  simp only [Text.write, String.toList_ofList, List.cons_append]
  exact skipBlanks_cons (by decide)

end Json

end Metrology
