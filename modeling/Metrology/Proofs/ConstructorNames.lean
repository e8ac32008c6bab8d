import Metrology.Declaration.Basic
import Metrology.Program.Run
import Metrology.Proofs.AttributeEntries
import Metrology.Proofs.DecimalReading
import Metrology.Proofs.EngineeringParts
import Metrology.Units.International

namespace Metrology

namespace Declaration

/-- A letter or an underscore. -/
def isWordStart (c : Char) : Bool :=
  c.isAlpha || c == '_'

def isWordChar (c : Char) : Bool :=
  c.isAlphanum || c == '_'

/-- A word of ASCII letters, digits and underscores that does not start with a digit. -/
def isAsciiWord : List Char → Bool
  | [] => false
  | c :: cs => isWordStart c && cs.all isWordChar

section Characters

variable {c : Char} {cs : List Char}

theorem toNat_of_isAlpha (h : c.isAlpha = true) :
    (65 ≤ c.toNat ∧ c.toNat ≤ 90) ∨ (97 ≤ c.toNat ∧ c.toNat ≤ 122) := by
  change (decide ('A'.val ≤ c.val ∧ c.val ≤ 'Z'.val) ||
    (decide ('a'.val ≤ c.val) && decide (c.val ≤ 'z'.val))) = true at h
  simp only [Bool.or_eq_true, Bool.and_eq_true, decide_eq_true_eq, UInt32.le_iff_toNat_le] at h
  exact h

theorem toNat_of_isDigit (h : c.isDigit = true) : 48 ≤ c.toNat ∧ c.toNat ≤ 57 := by
  simp only [Char.isDigit, Bool.and_eq_true, decide_eq_true_eq, UInt32.le_iff_toNat_le,
    ge_iff_le] at h
  exact h

theorem isWordChar_iff : isWordChar c = true ↔ isWordStart c = true ∨ c.isDigit = true := by
  simp only [isWordStart, isWordChar, Char.isAlphanum, Bool.or_eq_true]
  tauto

theorem toNat_of_isWordChar (h : isWordChar c = true) : 48 ≤ c.toNat ∧ c.toNat ≤ 122 := by
  rw [isWordChar_iff, isWordStart, Bool.or_eq_true, beq_iff_eq] at h
  obtain (h | rfl) | h := h
  · have := toNat_of_isAlpha h
    omega
  · decide
  · have := toNat_of_isDigit h
    omega

theorem isStart_of_isWordStart (h : isWordStart c = true) : Word.isStart c = true := by
  rw [isWordStart, Bool.or_eq_true] at h
  rw [Word.isStart, Bool.or_eq_true]
  refine h.symm.imp_right fun hletter => List.any_eq_true.2 ?_
  obtain h | h := toNat_of_isAlpha hletter
  · exact ⟨(0x41, 0x5a), by decide, by simpa using h⟩
  · exact ⟨(0x61, 0x7a), by decide, by simpa using h⟩

theorem isTail_of_isWordChar (h : isWordChar c = true) : Word.isTail c = true := by
  rw [Word.isTail, Bool.or_eq_true]
  refine (isWordChar_iff.1 h).imp isStart_of_isWordStart fun hdigit => List.any_eq_true.2 ?_
  exact ⟨(0x30, 0x39), by decide, by simpa using toNat_of_isDigit hdigit⟩

theorem not_isBlank (h : isWordChar c = true) : Lexer.isBlank c = false := by
  have hbounds := toNat_of_isWordChar h
  have hne (d : Char) (hd : 122 < d.toNat) : c ≠ d := by
    rintro rfl
    omega
  simp only [Lexer.isBlank, Bool.or_eq_false_iff, beq_eq_false_iff_ne]
  refine ⟨⟨?_, hne _ (by decide)⟩, hne _ (by decide)⟩
  simp only [Lexer.isWhite, CharRanges.contains, Lexer.whiteRanges, List.any_cons, List.any_nil,
    Bool.or_false, Bool.or_eq_false_iff, Bool.and_eq_false_iff, decide_eq_false_iff_not]
  omega

theorem not_mem_of_all_isWordChar (hcs : cs.all isWordChar = true) {c : Char}
    (hc : isWordChar c = false) : c ∉ cs := by
  intro hmem
  rw [List.all_eq_true.1 hcs c hmem] at hc
  cases hc

theorem all_isWordChar_of_isAsciiWord (h : isAsciiWord cs = true) : cs.all isWordChar = true := by
  cases cs with
  | nil => rfl
  | cons c cs =>
      rw [isAsciiWord, Bool.and_eq_true] at h
      rw [List.all_cons, Bool.and_eq_true]
      exact ⟨isWordChar_iff.2 (.inl h.1), h.2⟩

end Characters

namespace Lexer

variable {c : Char} {cs : List Char}

/-- What holds a character of another kind does not stand at the front of a word. -/
theorem not_startsWith (hcs : cs.all isWordChar = true) (text : String)
    (htext : text.toList.all isWordChar = false) : startsWith text cs = false := by
  obtain ⟨c, hc, hchar⟩ := List.all_eq_false.1 htext
  rw [Bool.not_eq_true] at hchar
  rw [startsWith, Bool.eq_false_iff]
  intro hprefix
  have hmem := (List.isPrefixOf_iff_prefix.1 hprefix).subset hc
  exact not_mem_of_all_isWordChar hcs hchar hmem

theorem raw?_eq_none (hcs : cs.all isWordChar = true) (plain : Char → Bool) :
    raw? plain cs = none := by
  have hhash := not_mem_of_all_isWordChar hcs (c := '#') (by decide)
  have hquote := not_mem_of_all_isWordChar hcs (c := '"') (by decide)
  have hhashes : cs.takeWhile (· == '#') = [] := by
    cases cs with
    | nil => rfl
    | cons c cs =>
        have hne : c ≠ '#' := fun h => hhash (by simp [h])
        simp [hne]
  simp only [raw?, hhashes, List.length_nil, List.drop_zero]
  split
  · simp at hquote
  · rfl

theorem not_isDigit (h : isWordStart c = true) : c.isDigit = false := by
  rw [Bool.eq_false_iff]
  intro hdigit
  have hbounds := toNat_of_isDigit hdigit
  rw [isWordStart, Bool.or_eq_true, beq_iff_eq] at h
  obtain h | rfl := h
  · have := toNat_of_isAlpha h
    omega
  · revert hdigit
    decide

theorem ten_le_hexValue (h : c.isDigit = false) : 10 ≤ hexValue c := by
  simp only [hexValue, h, Bool.false_eq_true, if_false]
  split <;> omega

theorem digits?_eq_none (hc : isWordStart c = true) (cs : List Char) :
    digits? 10 none (c :: cs) = none := by
  have hdigit := not_isDigit hc
  have hhex : ¬(isHex c = true ∧ hexValue c < 10) :=
    fun h => absurd h.2 (Nat.not_lt.2 (ten_le_hexValue hdigit))
  rw [digits?, if_neg hhex, if_neg (by simp [hdigit])]
  split <;> simp

theorem number?_eq_none (hc : isWordStart c = true) (cs : List Char) :
    number? (c :: cs) = none := by
  have hdigit := not_isDigit hc
  have hzero : c ≠ '0' := by
    rintro rfl
    cases hdigit
  have hfloat : floatEnd? (c :: cs) = none := by simp [floatEnd?, hdigit]
  have hinteger : integer? (c :: cs) = none := by
    unfold integer?
    split
    · simp_all
    · simp_all
    · simp_all
    · exact digits?_eq_none hc cs
  simp [number?, hfloat, hinteger]

theorem literal?_eq_none (hc : isWordStart c = true) (hcs : cs.all isWordChar = true) :
    literal? (c :: cs) = none := by
  have hquote := not_mem_of_all_isWordChar hcs (c := '"') (by decide)
  have hquote' := not_mem_of_all_isWordChar hcs (c := '\'') (by decide)
  have hstart : isWordStart '"' = false := by decide
  have hstart' : isWordStart '\'' = false := by decide
  unfold literal?
  dsimp only
  rw [number?_eq_none hc]
  split
  · rename_i found hfound
    -- Each opening of a literal starts with a quote, has one behind its letters, or hashes that
    -- no word holds.
    split at hfound <;> simp_all [raw?_eq_none]
  · rfl

theorem mark?_eq_none (h : isAsciiWord cs = true) : mark? cs = none := by
  have hcs := all_isWordChar_of_isAsciiWord h
  have hmarks : (marks.any isWordChar) = false := by decide
  have hchar : markChar? cs = none := by
    unfold markChar?
    split
    · rename_i c rest
      have hc : c ∉ marks := by
        intro hmem
        have hother := List.any_eq_false.1 hmarks c hmem
        exact not_mem_of_all_isWordChar hcs (Bool.not_eq_true _ ▸ hother) (by simp)
      simp [not_startsWith hcs "//" (by decide), not_startsWith hcs "/*" (by decide), hc]
    · rfl
  simp [mark?, hchar]

theorem word?_eq (h : isAsciiWord cs = true) : word? cs = some (cs, []) := by
  cases cs with
  | nil => cases h
  | cons c cs =>
      rw [isAsciiWord, Bool.and_eq_true] at h
      have htail : cs.all Word.isTail = true :=
        List.all_eq_true.2 fun d hd => isTail_of_isWordChar (List.all_eq_true.1 h.2 d hd)
      have hend : ([] : List Char).head?.any Word.isTail = false := rfl
      obtain ⟨htake, hdrop⟩ := span_word htail hend
      rw [List.append_nil] at htake hdrop
      rw [word?, if_pos (isStart_of_isWordStart h.1), htake, hdrop]

theorem anyWord?_eq (h : isAsciiWord cs = true) :
    anyWord? cs = some (.word false (String.ofList cs), []) := by
  have hhash := not_mem_of_all_isWordChar (all_isWordChar_of_isAsciiWord h) (c := '#') (by decide)
  unfold anyWord?
  split
  · simp at hhash
  · simp [word?_eq h]

theorem plainToken?_eq (h : isAsciiWord cs = true) :
    plainToken? cs = some (.word false (String.ofList cs), []) := by
  have hopenings : ∀ opening ∈ literalOpenings, opening.toList.all isWordChar = false := by decide
  have hliteral : literal? cs = none := by
    cases cs with
    | nil => cases h
    | cons c cs =>
        rw [isAsciiWord, Bool.and_eq_true] at h
        exact literal?_eq_none h.1 h.2
  have hopening : (literalOpenings.any fun opening => startsWith opening cs) = false := by
    simp only [List.any_eq_false, Bool.not_eq_true]
    exact fun opening hmem =>
      not_startsWith (all_isWordChar_of_isAsciiWord h) opening (hopenings opening hmem)
  simp only [plainToken?, hliteral, mark?_eq_none h, hopening, Bool.false_eq_true, if_false,
    anyWord?_eq h]

theorem comment?_eq_none (hcs : cs.all isWordChar = true) : comment? cs = none := by
  simp [comment?, not_startsWith hcs "//" (by decide), not_startsWith hcs "/**/" (by decide),
    not_startsWith hcs "/*" (by decide)]

theorem documentation?_eq_none (hcs : cs.all isWordChar = true) : documentation? cs = none := by
  simp [documentation?, not_startsWith hcs "//!" (by decide),
    not_startsWith hcs "/*!" (by decide), not_startsWith hcs "///" (by decide),
    not_startsWith hcs "/**" (by decide)]

theorem skip_eq (hcs : cs.all isWordChar = true) (fuel : Nat) : skip fuel cs = cs := by
  cases fuel with
  | zero => rfl
  | succ fuel =>
      have hcomment := comment?_eq_none hcs
      cases cs with
      | nil => rfl
      | cons c cs =>
          rw [List.all_cons, Bool.and_eq_true] at hcs
          simp [skip, hcomment, not_isBlank hcs.1]

/-- A word is one lexeme. -/
theorem lexemes_eq (h : isAsciiWord cs = true) (fuel : Nat) :
    lexemes (fuel + 2) cs = some [.token (.word false (String.ofList cs))] := by
  have hcs := all_isWordChar_of_isAsciiWord h
  have hdelimiters : ∀ d ∈ Delimiter.all,
      isWordChar d.opening = false ∧ isWordChar d.closing = false := by decide
  have hend : lexemes (fuel + 1) [] = some [] := rfl
  rw [lexemes, skip_eq hcs]
  cases cs with
  | nil => cases h
  | cons c cs =>
      have hopening : Delimiter.all.find? (fun d => d.opening = c) = none := by
        simp only [List.find?_eq_none, decide_eq_true_eq]
        rintro d hd rfl
        exact not_mem_of_all_isWordChar hcs (hdelimiters d hd).1 (by simp)
      have hclosing : Delimiter.all.find? (fun d => d.closing = c) = none := by
        simp only [List.find?_eq_none, decide_eq_true_eq]
        rintro d hd rfl
        exact not_mem_of_all_isWordChar hcs (hdelimiters d hd).2 (by simp)
      simp only [documentation?_eq_none hcs, not_startsWith hcs placeholder (by decide), hopening,
        hclosing, Bool.false_eq_true, if_false, plainToken?_eq h]
      simp [hend]

end Lexer

variable {text : String}

theorem tokens?_eq (h : isAsciiWord text.toList = true) :
    tokens? text = some [.word false text] := by
  have hmark :=
    not_mem_of_all_isWordChar (all_isWordChar_of_isAsciiWord h) (c := '\ufeff') (by decide)
  obtain ⟨n, hn⟩ : ∃ n, text.toList.length + 1 = n + 2 := by
    cases htext : text.toList with
    | nil => simp [htext, isAsciiWord] at h
    | cons c cs => exact ⟨cs.length, rfl⟩
  have hlexemes := Lexer.lexemes_eq h n
  rw [String.ofList_toList] at hlexemes
  unfold tokens?
  split
  · rename_i rest heq
    simp [heq] at hmark
  · dsimp only
    rw [hn, hlexemes]
    rfl

theorem rawName_eq (h : isAsciiWord text.toList = true) :
    rawName text = if text ∈ reservedWords then .error (.reserved text)
      else .ok (wordText true text) := by
  cases htext : text.toList with
  | nil => simp [htext, isAsciiWord] at h
  | cons c cs =>
      rw [htext, isAsciiWord, Bool.and_eq_true] at h
      have hdigits : (c :: cs).all Char.isDigit = false := by simp [Lexer.not_isDigit h.1]
      have hword : isWord (c :: cs) = true := by
        rw [isWord, isStart_of_isWordStart h.1, Bool.true_and, List.all_eq_true]
        exact fun d hd => isTail_of_isWordChar (List.all_eq_true.1 h.2 d hd)
      simp [rawName, htext, hdigits, hword]

/-- A word is the name itself, unless it is a keyword; a keyword is made raw if it can be. -/
theorem constructorName_eq (h : isAsciiWord text.toList = true) :
    constructorName text =
      if text ∈ reservedWords then .error (.reserved text)
        else .ok (wordText (keywords.contains text) text) := by
  have hreserved : ∀ word ∈ reservedWords, word ∈ keywords := by decide
  by_cases hkeyword : text ∈ keywords
  · simp [constructorName, singleName?, tokens?_eq h, isName, hkeyword, rawName_eq h]
  · have hfree : text ∉ reservedWords := fun hmem => hkeyword (hreserved text hmem)
    simp [constructorName, singleName?, tokens?_eq h, isName, hkeyword, hfree]

/-- A scaling in front of a word makes a word. -/
theorem isAsciiWord_append (h : isAsciiWord text.toList = true) {s : Scaling}
    (hs : s ∈ Scaling.all) : isAsciiWord (s.symbol ++ text).toList = true := by
  have hsymbols : ∀ s ∈ Scaling.all,
      s.symbol.toList = [] ∨ isAsciiWord s.symbol.toList = true := by decide
  rw [String.toList_append]
  cases hsymbol : s.symbol.toList with
  | nil => exact h
  | cons c cs =>
      obtain hnil | hword := hsymbols s hs
      · simp [hnil] at hsymbol
      · rw [hsymbol, isAsciiWord, Bool.and_eq_true] at hword
        simp [isAsciiWord, hword, all_isWordChar_of_isAsciiWord h]

/-- The symbols that make a reserved word, by themselves or with a scaling in front of them. -/
def reservedSymbols : List String :=
  ["_", "self", "Self", "super", "crate", "rate"]

theorem exists_reserved_iff :
    (∃ s ∈ Scaling.all, s.symbol ++ text ∈ reservedWords) ↔ text ∈ reservedSymbols := by
  constructor
  · rintro ⟨s, hs, hmem⟩
    -- The symbol is what is left of a reserved word behind a scaling, and these are finitely
    -- many.
    have hrests : ∀ s ∈ Scaling.all, ∀ word ∈ reservedWords, s.symbol.toList <+: word.toList →
        String.ofList (word.toList.drop s.symbol.toList.length) ∈ reservedSymbols := by decide
    have hrest := hrests s hs _ hmem
    simpa [String.toList_append] using hrest
  · intro hmem
    have hmade : ∀ text ∈ reservedSymbols, ∃ s ∈ Scaling.all,
        s.symbol ++ text ∈ reservedWords := by decide
    exact hmade text hmem

section MapM

variable {α β ε : Type} {f : α → Except ε β} {as : List α}

theorem mapM_eq_ok {g : α → β} (h : ∀ a ∈ as, f a = .ok (g a)) : as.mapM f = .ok (as.map g) := by
  induction as with
  | nil => rfl
  | cons a as ih =>
      rw [List.mapM_cons, h a (by simp), ih fun b hb => h b (by simp [hb])]
      rfl

/-- A list with an error has the error of one of its members. -/
theorem exists_mapM_eq_error (h : ∃ a ∈ as, ∃ e, f a = .error e) :
    ∃ a ∈ as, ∃ e, f a = .error e ∧ as.mapM f = .error e := by
  induction as with
  | nil => simp at h
  | cons a as ih =>
      cases ha : f a with
      | error e =>
          refine ⟨a, by simp, e, ha, ?_⟩
          rw [List.mapM_cons, ha]
          rfl
      | ok b =>
          obtain ⟨c, hc, e, he, hmap⟩ := ih (by simpa [ha] using h)
          refine ⟨c, by simp [hc], e, he, ?_⟩
          rw [List.mapM_cons, ha, hmap]
          rfl

end MapM

namespace Constructor

variable {type : String} {unit : UnitAttribute}

/-- The constructor of a scaling, named by its word, which is raw if it is a keyword. -/
def named (type : String) (unit : UnitAttribute) (s : Scaling) : Constructor where
  name := wordText (keywords.contains (s.symbol ++ unit.symbol)) (s.symbol ++ unit.symbol)
  documentation :=
    "`x` " ++ s.name ++ unit.name ++ " (`" ++ s.symbol ++ unit.symbol ++ "`) as a quantity."
  type := type
  dimension := unit.dimension
  scale := s.scale.map Scale.constantName

theorem make_eq (h : isAsciiWord unit.symbol.toList = true) {s : Scaling} (hs : s ∈ Scaling.all) :
    make type unit s =
      if s.symbol ++ unit.symbol ∈ reservedWords then .error (.reserved (s.symbol ++ unit.symbol))
      else .ok (named type unit s) := by
  rw [make, constructorName_eq (isAsciiWord_append h hs)]
  split <;> rfl

theorem constructors_of_reserved (type : String) (h : isAsciiWord unit.symbol.toList = true)
    (hreserved : unit.symbol ∈ reservedSymbols) :
    ∃ word ∈ reservedWords, constructors type unit = .error (.reserved word) := by
  obtain ⟨s, hs, hmem⟩ := exists_reserved_iff.2 hreserved
  have hsome : ∃ s ∈ Scaling.all, ∃ e, make type unit s = .error e :=
    ⟨s, hs, _, by rw [make_eq h hs, if_pos hmem]⟩
  obtain ⟨s, hs, e, he, hconstructors⟩ := exists_mapM_eq_error hsome
  rw [make_eq h hs] at he
  split at he
  · rename_i hword
    cases he
    exact ⟨_, hword, hconstructors⟩
  · cases he

theorem constructors_of_not_reserved (type : String) (h : isAsciiWord unit.symbol.toList = true)
    (hfree : unit.symbol ∉ reservedSymbols) :
    constructors type unit = .ok (Scaling.all.map (named type unit)) := by
  refine mapM_eq_ok fun s hs => ?_
  rw [make_eq h hs, if_neg]
  exact fun hmem => hfree (exists_reserved_iff.1 ⟨s, hs, hmem⟩)

theorem wordText_injective {raw raw' : Bool} {text text' : String}
    (h : isAsciiWord text.toList = true) (h' : isAsciiWord text'.toList = true)
    (heq : wordText raw text = wordText raw' text') : text = text' := by
  have hhash {text : String} (h : isAsciiWord text.toList = true) : '#' ∉ text.toList :=
    not_mem_of_all_isWordChar (all_isWordChar_of_isAsciiWord h) (by decide)
  have hraw {text text' : String} (h : isAsciiWord text.toList = true) :
      text ≠ "r#" ++ text' := by
    rintro rfl
    exact hhash h (by simp)
  cases raw <;> cases raw'
  · exact heq
  · exact absurd heq (hraw h)
  · exact absurd heq.symm (hraw h')
  · exact (String.append_right_inj "r#").1 heq

theorem nodup_names (h : isAsciiWord unit.symbol.toList = true) :
    ((Scaling.all.map (named type unit)).map Constructor.name).Nodup := by
  have hsymbols : ∀ s ∈ Scaling.all, ∀ s' ∈ Scaling.all, s.symbol = s'.symbol → s = s' := by
    decide
  rw [List.map_map]
  refine List.Nodup.map_on (fun s hs s' hs' heq => hsymbols s hs s' hs' ?_) (by decide)
  have htexts := wordText_injective (isAsciiWord_append h hs) (isAsciiWord_append h hs') heq
  exact (String.append_left_inj unit.symbol).1 htexts

end Constructor

end Declaration

namespace Scale

theorem ofSymbol?_of_mem {s : Scaling} (hs : s ∈ Scaling.all) (hsymbol : s.symbol ≠ "") :
    ∃ scale, s.scale = some scale ∧ lookup s.symbol = ⟨.ok scale, []⟩ := by
  have hscales : ∀ s ∈ Scaling.all,
      s.symbol ≠ "" → s.scale.isSome ∧ ofSymbol? s.symbol = s.scale := by decide
  obtain ⟨hsome, hlookup⟩ := hscales s hs hsymbol
  obtain ⟨scale, hscale⟩ := Option.isSome_iff_exists.1 hsome
  exact ⟨scale, hscale, by rw [lookup, hlookup, hscale]; rfl⟩

/-- Any other text, however long, is the symbol of no scale. -/
theorem lookup_eq_error_iff (text : String) :
    lookup text = ⟨.error (.unknownScale text), [(UnitError.unknownScale text).event]⟩ ↔
      text = "" ∨ text ∉ Scaling.all.map Scaling.symbol := by
  constructor
  · intro hlookup
    by_contra hknown
    rw [not_or, not_not] at hknown
    obtain ⟨s, hs, rfl⟩ := List.mem_map.1 hknown.2
    obtain ⟨scale, -, hscale⟩ := ofSymbol?_of_mem hs hknown.1
    rw [hscale] at hlookup
    cases hlookup
  · intro hunknown
    have hnone : ofSymbol? text = none := by
      unfold ofSymbol?
      split <;> simp_all [Scaling.all]
    rw [lookup, hnone]
    rfl

theorem find?_constantName (scale : Scale) :
    International.table.find? scale.constantName = some (.number scale.factor) := by
  cases scale <;> rfl

end Scale

/-- The size of a scaled unit is the size of the unit times the value of the scale. -/
theorem NamedUnit.scaled_of_scale {s : Scaling} {scale : Scale} (h : s.scale = some scale)
    (p : Precision) (u : NamedUnit) : u.scaled p s = (u.size p).mul (scale.value p) := by
  rw [scaled, Scaling.factor, h]
  rfl

/-- A symbol that stands for a degree in engineering notation is the symbol of the scale of that
degree. -/
theorem Engineering.lookup_scaleSymbol {k : Int} {symbol : String}
    (h : scaleSymbol? k = some symbol) (hsymbol : symbol ≠ "") :
    ∃ scale, Scale.lookup symbol = ⟨.ok scale, []⟩ ∧ scale.factor.value = 10 ^ (3 * k) := by
  have hall : ∀ k ∈ Finset.Icc (-8 : Int) 8, k = 0 ∨
      ((scaleSymbol? k).bind Scale.ofSymbol?).map Scale.factor = some ⟨1, 3 * k⟩ := by decide
  obtain rfl | hfactor := hall k (bounds_of_scaleSymbol? h)
  · simp_all [scaleSymbol?, multipleSymbols]
  · rw [h, Option.bind_some] at hfactor
    obtain ⟨scale, hscale, hvalue⟩ := Option.map_eq_some_iff.1 hfactor
    refine ⟨scale, by rw [Scale.lookup, hscale]; rfl, ?_⟩
    rw [hvalue, Decimal.value]
    norm_num

namespace Declaration

variable {unit : UnitAttribute} {item : TypeItem}

theorem ofItem_eq (hunit : unitAttribute item.attributes = .ok unit) :
    ofItem item =
      ((constructors item.name unit).mapError .name).map (unit.declared item.name) := by
  rw [ofItem, hunit]
  dsimp only [bind, Except.bind]
  cases constructors item.name unit <;> rfl

/-- A unit whose symbol is a word is refused for a reserved word among the names, and for nothing
else. -/
theorem exists_ofItem_eq_error_iff (hunit : unitAttribute item.attributes = .ok unit)
    (h : isAsciiWord unit.symbol.toList = true) :
    (∃ e, ofItem item = .error e) ↔ unit.symbol ∈ reservedSymbols := by
  constructor
  · rintro ⟨e, he⟩
    by_contra hfree
    rw [ofItem_eq hunit, Constructor.constructors_of_not_reserved item.name h hfree] at he
    cases he
  · intro hreserved
    obtain ⟨word, -, hword⟩ := Constructor.constructors_of_reserved item.name h hreserved
    exact ⟨_, by rw [ofItem_eq hunit, hword]; rfl⟩

theorem Constructor.value?_body_named {p : Precision} {units : List NamedUnit} {u : NamedUnit}
    {type : String} (hu : units.find? (fun v => v.label = type) = some u) (unit : UnitAttribute)
    (s : Scaling) (x : Binary p) :
    (named type unit s).body.value? units x = some (x.mul (u.scaled p s)) := by
  cases hscale : s.scale with
  | none => simp [body, named, Body.value?, hu, hscale, NamedUnit.scaled, Scaling.factor]
  | some scale =>
      simp [body, named, Body.value?, hu, hscale, NamedUnit.scaled, Scaling.factor,
        Scale.find?_constantName, Formula.magnitude]

/-- A constructor measures in the scaled unit. -/
theorem Constructor.call?_named {p : Precision} {scope : Scope} {units : List NamedUnit}
    {u : NamedUnit} {type : String} {unit : UnitAttribute}
    (hdimension : scope.dimension unit.dimension = some u.dimension)
    (hu : units.find? (fun v => v.label = type) = some u) (s : Scaling) (x : Binary p) :
    (named type unit s).call? scope units x =
      some (Quantity.build u.dimension (.ok (x.mul (u.scaled p s)))) := by
  have hfound : scope.dimension (named type unit s).dimension = some u.dimension := hdimension
  rw [call?, hfound, value?_body_named hu]
  rfl

theorem UnitAttribute.dimension_of_named? {scope : Scope} {type : String} {cs : List Constructor}
    {u : NamedUnit} (h : (unit.declared type cs).named? scope = some u) :
    scope.dimension unit.dimension = some u.dimension := by
  simp only [DeclaredUnit.named?, Option.bind_eq_bind, Option.bind_eq_some_iff, Option.pure_def,
    Option.some.injEq] at h
  obtain ⟨d, hd, f, -, rfl⟩ := h
  exact hd

/-- The item `#[unit(name = "second", symbol = .., dimension = ..)] enum Second {}`. -/
def TypeItem.second (symbol : String) (dimension : EntryValue) : TypeItem :=
  let arguments := Entry.tokensAll
    [.ofName "second" (some false), .ofSymbol symbol (some false), .ofDimension dimension none]
  let tokens :=
    [.mark '#' false, .group .bracket [.word false "unit", .group .parenthesis arguments]]
  ⟨[⟨[.word false "unit"], .arguments arguments, tokens⟩], "Second"⟩

theorem unitAttribute_second (symbol : String) (dimension : EntryValue) (h : symbol ≠ "") :
    unitAttribute (TypeItem.second symbol dimension).attributes =
      .ok ⟨"second", symbol, dimension.expression, none⟩ := by
  change UnitAttribute.parse _ = _
  rw [UnitAttribute.parse_eq_iff]
  exact .declared rfl rfl rfl h rfl rfl

def EntryValue.timePath : EntryValue :=
  .path [.word false "TimeIntervalD"] [.word false "TimeIntervalD"] (.plain (.word rfl) .nil)

/-- The names that the declaration of a second uses. -/
def Scope.ofTime : Scope where
  dimension e := if e.text = "TimeIntervalD" then some NamedUnit.second.dimension else none
  number e := if e.text = "1.0" then some 1.0 else none

end Declaration

end Metrology
