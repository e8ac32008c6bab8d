import Mathlib.Data.List.Forall2
import Metrology.Dimension.Text
import Metrology.Proofs.JsonIntegers
import Metrology.Quantity.Json

namespace Metrology

namespace Json

theorem bind_eq_ok_iff {α β : Type} {m : Except ReadError α} {f : α → Except ReadError β}
    {y : β} : (m >>= f) = .ok y ↔ ∃ x, m = .ok x ∧ f x = .ok y := by
  cases m <;> simp [bind, Except.bind]

section Whole

variable {α : Type} {read : Content → Except ReadError α} {x : α} {text : String}
  {rest : List Char}

theorem finish_eq_ok_iff {u : Unit} : finish rest = .ok u ↔ Blank rest := by
  rw [← skipBlanks_eq_nil_iff, ← List.isEmpty_iff]
  unfold finish
  split <;> simp_all

theorem readContent_eq_ok_iff {found : Content × List Char} :
    readContent text = .ok found ↔ Content.scan (skipBlanks text.toList) = some found := by
  unfold readContent
  cases Content.scan (skipBlanks text.toList) <;> simp

theorem readScalar_eq_ok_iff :
    readScalar read text = .ok x ↔
      ∃ c rest, Content.scan (skipBlanks text.toList) = some (c, rest) ∧ read c = .ok x ∧
        Blank rest := by
  simp [readScalar, bind_eq_ok_iff, readContent_eq_ok_iff, finish_eq_ok_iff, pure, Except.pure]

end Whole

section Integer

variable {k : IntegerKind} {x : BoundedInt k} {n : Int} {literal after rest : List Char}

theorem IsLiteral.skipBlanks_append (h : IsLiteral k literal n) (rest : List Char) :
    skipBlanks (literal ++ rest) = literal ++ rest := by
  obtain ⟨c, cs, rfl, hc⟩ := h.spells.begins
  exact skipBlanks_cons (isBlank_of_begins hc)

theorem ends_append (hafter : Blank after) (hrest : Literal.Ends rest) :
    Literal.Ends (after ++ rest) := by
  cases after with
  | nil => exact hrest
  | cons c after =>
      have hblank : ∀ c, isBlank c = true → c.isDigit = false ∧ c ≠ '.' ∧ c ≠ 'e' ∧ c ≠ 'E' := by
        intro c hc
        simp only [isBlank, Bool.or_eq_true, beq_iff_eq] at hc
        rcases hc with ((rfl | rfl) | rfl) | rfl <;> decide
      intro d hd
      obtain rfl : c = d := by simpa using hd
      exact hblank c (hafter c (by simp))

/-- The text is a literal of the kind, between blanks. -/
def IsIntegerText (k : IntegerKind) (cs : List Char) (n : Int) : Prop :=
  ∃ before literal after, Blank before ∧ IsLiteral k literal n ∧ Blank after ∧
    cs = before ++ (literal ++ after)

theorem isIntegerText_signed (k : IntegerKind) (n : Int) :
    IsIntegerText k (Decimal.signed false n).toList n :=
  ⟨[], _, [], by simp [Blank], isLiteral_signed k n, by simp [Blank], by simp⟩

theorem readScalar_integer_iff {text : String} :
    readScalar (readInteger k) text = .ok x ↔ IsIntegerText k text.toList x.val := by
  rw [readScalar_eq_ok_iff]
  constructor
  · rintro ⟨c, rest, hscan, hread, hblank⟩
    obtain ⟨literal, hliteral, hcs, -⟩ := readInteger_scan_iff.mp ⟨c, hscan, hread⟩
    obtain ⟨before, hbefore, htext⟩ := exists_blank_append_skipBlanks text.toList
    exact ⟨before, literal, rest, hbefore, hliteral, hblank, hcs ▸ htext⟩
  · rintro ⟨before, literal, after, hbefore, hliteral, hafter, htext⟩
    have hends := ends_append hafter (show Literal.Ends [] by simp [Literal.Ends])
    rw [List.append_nil] at hends
    obtain ⟨c, hscan, hread⟩ := readInteger_scan_iff.mpr ⟨literal, hliteral, rfl, hends⟩
    refine ⟨c, after, ?_, hread, hafter⟩
    rw [htext, skipBlanks_append hbefore, hliteral.skipBlanks_append, hscan]

end Integer

section Items

variable {fuel : Nat} {first : Bool} {cs cs' rest : List Char}

theorem Items.scan_closed (h : skipBlanks cs = ']' :: rest) :
    Items.scan (fuel + 1) first cs = .closed rest := by
  simp [Items.scan, h]

theorem Items.scan_open (hopen : ∀ rest, skipBlanks cs ≠ ']' :: rest) :
    Items.scan (fuel + 1) first cs =
      match (nextItem first (skipBlanks cs)).bind Content.scan with
      | some (c, rest) => .item c (Items.scan fuel false rest)
      | none => .broken := by
  rw [Items.scan]
  split
  · rename_i rest hrest
    exact absurd hrest (hopen rest)
  · rfl

theorem nextItem_false_eq_some_iff :
    nextItem false cs = some cs' ↔ ∃ more, cs = ',' :: more ∧ cs' = skipBlanks more := by
  cases cs with
  | nil => simp [nextItem]
  | cons c cs =>
      by_cases hc : c = ','
      · subst hc
        simp [nextItem, eq_comm]
      · simp [nextItem, hc]

end Items

end Json

theorem Exponents.ofList?_eq_some_iff {α : Type} {xs : List α} {e : Exponents α} :
    ofList? xs = some e ↔ e.toList = xs := by
  constructor
  · intro h
    unfold ofList? at h
    split at h
    · obtain rfl := Option.some.inj h
      rfl
    · cases h
  · rintro rfl
    exact ofList?_toList e

namespace ExponentVector

open Json

variable {seen exponents : List Exponent} {v : ExponentVector} {fuel : Nat} {first : Bool}
  {cs after rest rest' : List Char} {items : List (List Char)}

section Step

theorem readItems_scan_closed (h : skipBlanks cs = ']' :: rest) :
    readItems seen (Items.scan (fuel + 1) first cs) = .ok (v, rest') ↔
      v.toList = seen.reverse ∧ rest' = rest := by
  rw [Items.scan_closed h, ← Exponents.ofList?_eq_some_iff]
  cases hlist : Exponents.ofList? seen.reverse with
  | none => simp [readItems, hlist]
  | some w => simp [readItems, hlist, eq_comm]

theorem readItems_item_eq_ok_iff {c : Content} {more : Items}
    {found : ExponentVector × List Char} :
    readItems seen (.item c more) = .ok found ↔
      seen.length ≠ 7 ∧ ∃ n,
        readInteger .int8 c = .ok n ∧ readItems (n :: seen) more = .ok found := by
  by_cases hlength : seen.length = 7
  · simp [readItems, hlength]
  · cases hread : readInteger .int8 c with
    | error e => simp [readItems, hlength, hread]
    | ok n => simp [readItems, hlength, hread]

/-- One step in a list that is not yet closed: the next item is a literal, and the rest is read
after it. -/
theorem readItems_scan_open {found : ExponentVector × List Char}
    (hopen : ∀ rest, skipBlanks cs ≠ ']' :: rest) :
    readItems seen (Items.scan (fuel + 1) first cs) = .ok found ↔
      seen.length ≠ 7 ∧ ∃ literal n rest,
        nextItem first (skipBlanks cs) = some (literal ++ rest) ∧
        IsLiteral .int8 literal n.val ∧ Literal.Ends rest ∧
        readItems (n :: seen) (Items.scan fuel false rest) = .ok found := by
  rw [Items.scan_open hopen]
  constructor
  · intro h
    cases hfound : (nextItem first (skipBlanks cs)).bind Content.scan with
    | none => simp [hfound, readItems] at h
    | some found' =>
        obtain ⟨c, rest⟩ := found'
        obtain ⟨cs', hnext, hscan⟩ := Option.bind_eq_some_iff.mp hfound
        simp only [hfound] at h
        obtain ⟨hlength, n, hread, hmore⟩ := readItems_item_eq_ok_iff.mp h
        obtain ⟨literal, hliteral, rfl, hends⟩ := readInteger_scan_iff.mp ⟨c, hscan, hread⟩
        exact ⟨hlength, literal, n, rest, hnext, hliteral, hends, hmore⟩
  · rintro ⟨hlength, literal, n, rest, hnext, hliteral, hends, hmore⟩
    obtain ⟨c, hscan, hread⟩ := readInteger_scan_iff.mpr ⟨literal, hliteral, rfl, hends⟩
    simp only [hnext, Option.bind_some, hscan]
    exact readItems_item_eq_ok_iff.mpr ⟨hlength, n, hread, hmore⟩

end Step

section Run

/-- Each text is an integer text of the exponent at its place. -/
def Spell (items : List (List Char)) (exponents : List Exponent) : Prop :=
  List.Forall₂ (fun item n => IsIntegerText .int8 item n.val) items exponents

/-- The items after the first one, as they are written. -/
def moreItems (items : List (List Char)) : List Char :=
  items.flatMap (',' :: ·)

theorem moreItems_cons (item : List Char) (items : List (List Char)) :
    moreItems (item :: items) = ',' :: (item ++ moreItems items) := by
  simp [moreItems]

theorem exists_items_of_readItems
    (h : readItems seen (Items.scan fuel false cs) = .ok (v, rest)) :
    ∃ after items exponents, Blank after ∧ cs = after ++ (moreItems items ++ ']' :: rest) ∧
      Spell items exponents ∧ v.toList = seen.reverse ++ exponents := by
  induction fuel generalizing seen cs with
  | zero => cases h
  | succ fuel ih =>
      obtain ⟨before, hbefore, hcs⟩ := exists_blank_append_skipBlanks cs
      by_cases hclosed : ∃ rest', skipBlanks cs = ']' :: rest'
      · obtain ⟨rest', hrest⟩ := hclosed
        obtain ⟨hv, rfl⟩ := (readItems_scan_closed hrest).mp h
        refine ⟨before, [], [], hbefore, ?_, .nil, by simp [hv]⟩
        rw [hcs, hrest]
        rfl
      · obtain ⟨-, literal, n, rest', hnext, hliteral, -, hmore⟩ :=
          (readItems_scan_open (not_exists.mp hclosed)).mp h
        obtain ⟨text, htext, hitem⟩ := nextItem_false_eq_some_iff.mp hnext
        obtain ⟨blanks, hblanks, htext'⟩ := exists_blank_append_skipBlanks text
        obtain ⟨after, items, exponents, hafter, rfl, hitems, hv⟩ := ih hmore
        refine ⟨before, (blanks ++ (literal ++ after)) :: items, n :: exponents, hbefore, ?_,
          .cons ⟨blanks, literal, after, hblanks, hliteral, hafter, rfl⟩ hitems, by simp [hv]⟩
        rw [hcs, htext, htext', ← hitem, moreItems_cons]
        simp

theorem ends_more (items : List (List Char)) (rest : List Char) :
    Literal.Ends (moreItems items ++ ']' :: rest) := by
  intro c hc
  cases items with
  | nil =>
      obtain rfl : ']' = c := by simpa [moreItems] using hc
      decide
  | cons item items =>
      obtain rfl : ',' = c := by simpa [moreItems] using hc
      decide

theorem length_ne_of_toList_eq {n : Exponent} (hv : v.toList = seen.reverse ++ n :: exponents) :
    seen.length ≠ 7 := by
  have hlength := congrArg List.length hv
  simp [Exponents.toList, BaseDimension.all] at hlength
  omega

theorem readItems_scan_items (hitems : Spell items exponents) (hafter : Blank after)
    (hfuel : items.length < fuel) (hv : v.toList = seen.reverse ++ exponents) :
    readItems seen (Items.scan fuel false (after ++ (moreItems items ++ ']' :: rest))) =
      .ok (v, rest) := by
  induction hitems generalizing seen after fuel with
  | nil =>
      obtain ⟨fuel, rfl⟩ := Nat.exists_eq_succ_of_ne_zero (by omega : fuel ≠ 0)
      have hrest : skipBlanks (after ++ (moreItems [] ++ ']' :: rest)) = ']' :: rest := by
        rw [skipBlanks_append hafter]
        exact skipBlanks_cons (by decide)
      exact (readItems_scan_closed hrest).mpr ⟨by simpa using hv, rfl⟩
  | @cons item n items exponents hitem hitems ih =>
      obtain ⟨fuel, rfl⟩ := Nat.exists_eq_succ_of_ne_zero (by omega : fuel ≠ 0)
      obtain ⟨before, literal, after', hbefore, hliteral, hafter', rfl⟩ := hitem
      have hcomma :
          skipBlanks
            (after ++ (moreItems ((before ++ (literal ++ after')) :: items) ++ ']' :: rest)) =
            ',' :: (before ++ (literal ++ (after' ++ (moreItems items ++ ']' :: rest)))) := by
        rw [skipBlanks_append hafter, moreItems_cons]
        simp [skipBlanks_cons (show isBlank ',' = false by decide)]
      refine (readItems_scan_open (by simp [hcomma])).mpr
        ⟨length_ne_of_toList_eq hv, literal, n, _,
        ?_, hliteral, ends_append hafter' (ends_more items rest), ih hafter' ?_ ?_⟩
      · rw [hcomma, nextItem_false_eq_some_iff]
        refine ⟨_, rfl, ?_⟩
        rw [skipBlanks_append hbefore, hliteral.skipBlanks_append]
      · simpa using hfuel
      · simpa using hv

theorem intercalate_cons (item : List Char) (items : List (List Char)) :
    [','].intercalate (item :: items) = item ++ moreItems items := by
  induction items generalizing item with
  | nil => simp [moreItems]
  | cons next items ih =>
      rw [List.intercalate_cons_cons, ih, moreItems_cons]
      simp

theorem length_le_length_moreItems (items : List (List Char)) :
    items.length ≤ (moreItems items).length := by
  induction items with
  | nil => simp
  | cons item items ih =>
      rw [moreItems_cons]
      simp only [List.length_cons, List.length_append]
      omega

theorem exists_toList_eq_cons (v : ExponentVector) : ∃ n exponents, v.toList = n :: exponents :=
  ⟨_, _, rfl⟩

theorem readItems_scan_first_iff :
    readItems [] (Items.scan (cs.length + 1) true cs) = .ok (v, rest) ↔
      ∃ items, Spell items v.toList ∧ cs = [','].intercalate items ++ ']' :: rest := by
  constructor
  · intro h
    -- An empty list has no seven exponents.
    have hopen : ∀ rest', skipBlanks cs ≠ ']' :: rest' := by
      intro rest' hclosed
      obtain ⟨n, exponents, hv⟩ := exists_toList_eq_cons v
      rw [readItems_scan_closed hclosed, hv] at h
      simp at h
    obtain ⟨-, literal, n, rest', hnext, hliteral, -, hmore⟩ := (readItems_scan_open hopen).mp h
    obtain ⟨before, hbefore, hcs⟩ := exists_blank_append_skipBlanks cs
    obtain ⟨after, items, exponents, hafter, rfl, hitems, hv⟩ := exists_items_of_readItems hmore
    refine ⟨(before ++ (literal ++ after)) :: items, ?_, ?_⟩
    · rw [hv]
      exact .cons ⟨before, literal, after, hbefore, hliteral, hafter, rfl⟩ hitems
    · rw [hcs, Option.some.inj hnext, intercalate_cons]
      simp
  · rintro ⟨items, hitems, hcs⟩
    obtain ⟨n, exponents, hv⟩ := exists_toList_eq_cons v
    rw [hv] at hitems
    cases hitems with
    | @cons item _ items _ hitem hitems =>
        obtain ⟨before, literal, after, hbefore, hliteral, hafter, rfl⟩ := hitem
        -- The comma of each item is one character of the text.
        have hfuel : items.length < cs.length := by
          have hlength := length_le_length_moreItems items
          rw [hcs, intercalate_cons]
          simp only [List.length_append, List.length_cons]
          omega
        have hskip : skipBlanks cs = literal ++ (after ++ (moreItems items ++ ']' :: rest)) := by
          rw [hcs, intercalate_cons, List.append_assoc, List.append_assoc, List.append_assoc,
            skipBlanks_append hbefore, hliteral.skipBlanks_append]
        have hopen : ∀ rest', skipBlanks cs ≠ ']' :: rest' := by
          intro rest' hclosed
          obtain ⟨c, ds, rfl, hc⟩ := hliteral.spells.begins
          rw [hskip] at hclosed
          exact hc.ne (by decide) (List.cons.inj hclosed).1
        exact (readItems_scan_open hopen).mpr
          ⟨by simp, literal, n, _, congrArg some hskip, hliteral,
          ends_append hafter (ends_more items rest), readItems_scan_items hitems hafter hfuel hv⟩

end Run

section Whole

/-- The text is a list of seven integer texts, one for each exponent in base order, between
blanks. -/
def IsVectorText (cs : List Char) (v : ExponentVector) : Prop :=
  ∃ before items after, Blank before ∧ Spell items v.toList ∧ Blank after ∧
    cs = before ++ '[' :: ([','].intercalate items ++ ']' :: after)

theorem read_eq_ok_iff {text : String} :
    read text = .ok v ↔ ∃ cs rest, skipBlanks text.toList = '[' :: cs ∧
      readItems [] (Items.scan (cs.length + 1) true cs) = .ok (v, rest) ∧ Blank rest := by
  unfold read
  rw [bind_eq_ok_iff]
  constructor
  · rintro ⟨⟨c, cs⟩, hcontent, h⟩
    rw [readContent_eq_ok_iff] at hcontent
    cases c with
    | sequence =>
        obtain ⟨⟨w, rest⟩, hitems, h⟩ := bind_eq_ok_iff.mp h
        obtain ⟨u, hfinish, h⟩ := bind_eq_ok_iff.mp h
        obtain rfl := Except.ok.inj h
        exact ⟨cs, rest, Content.scan_eq_sequence_iff.mp hcontent, hitems,
          finish_eq_ok_iff.mp hfinish⟩
    | _ => cases h
  · rintro ⟨cs, rest, htext, hitems, hrest⟩
    refine ⟨(.sequence, cs), ?_, ?_⟩
    · rw [readContent_eq_ok_iff]
      exact Content.scan_eq_sequence_iff.mpr htext
    · exact bind_eq_ok_iff.mpr ⟨(v, rest), hitems,
        bind_eq_ok_iff.mpr ⟨(), finish_eq_ok_iff.mpr hrest, rfl⟩⟩

theorem read_eq_ok_iff_isVectorText {text : String} :
    read text = .ok v ↔ IsVectorText text.toList v := by
  rw [read_eq_ok_iff]
  constructor
  · rintro ⟨cs, rest, htext, hread, hrest⟩
    obtain ⟨before, hbefore, htext'⟩ := exists_blank_append_skipBlanks text.toList
    obtain ⟨items, hitems, hcs⟩ := readItems_scan_first_iff.mp hread
    refine ⟨before, items, rest, hbefore, hitems, hrest, ?_⟩
    rw [htext', htext, hcs]
  · rintro ⟨before, items, after, hbefore, hitems, hafter, htext⟩
    refine ⟨_, after, ?_, readItems_scan_first_iff.mpr ⟨items, hitems, rfl⟩, hafter⟩
    rw [htext, skipBlanks_append hbefore]
    exact skipBlanks_cons (by decide)

theorem isVectorText_json (v : ExponentVector) : IsVectorText v.json.toList v := by
  refine ⟨[], v.toList.map fun n => (Decimal.signed false n.val).toList, [], by simp [Blank], ?_,
    by simp [Blank], ?_⟩
  · rw [Spell, List.forall₂_map_left_iff, List.forall₂_same]
    intro n _
    exact isIntegerText_signed .int8 n.val
  · simp [json, String.toList_intercalate, Function.comp_def]

theorem read_json (v : ExponentVector) : read v.json = .ok v :=
  read_eq_ok_iff_isVectorText.mpr (isVectorText_json v)

end Whole

end ExponentVector

open Json

theorem Quantity.readMagnitude_eq_ok_iff {k : IntegerKind} {x : BoundedInt k} {text : String} :
    readMagnitude text = .ok x ↔ IsIntegerText k text.toList x.val :=
  readScalar_integer_iff

/-- Integers and exponent vectors are read back from what is written for them. A text is read as
an integer exactly if it spells that integer, and as a vector exactly if it lists its exponents,
so that writing and reading the vector again changes nothing. -/
theorem stored_integers_exact :
    (∀ (k : IntegerKind) (q : Quantity (BoundedInt k)),
      Quantity.readMagnitude q.json = .ok q.magnitude) ∧
    (∀ v : ExponentVector, ExponentVector.read v.json = .ok v) ∧
    (∀ (k : IntegerKind) (text : String) (x : BoundedInt k),
      Quantity.readMagnitude text = .ok x ↔ IsIntegerText k text.toList x.val) ∧
    ∀ text : String,
      (∀ v, ExponentVector.read text = .ok v ↔ ExponentVector.IsVectorText text.toList v) ∧
      (ExponentVector.read text >>= fun v => ExponentVector.read v.json) =
        ExponentVector.read text := by
  refine ⟨?_, ExponentVector.read_json, ?_, fun text => ⟨?_, ?_⟩⟩
  · intro k q
    rw [Quantity.readMagnitude_eq_ok_iff]
    exact isIntegerText_signed k q.magnitude.val
  · intro k text x
    exact Quantity.readMagnitude_eq_ok_iff
  · intro v
    exact ExponentVector.read_eq_ok_iff_isVectorText
  · cases ExponentVector.read text with
    | error e => rfl
    | ok v => exact bind_eq_ok_iff.mpr ⟨v, rfl, ExponentVector.read_json v⟩

end Metrology
