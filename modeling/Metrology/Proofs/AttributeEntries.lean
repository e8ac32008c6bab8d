import Mathlib.Data.List.Nodup
import Metrology.Declaration.Basic
import Metrology.Proofs.TypeReading

namespace Metrology

namespace Declaration

open Scan

/-- What may stand after a value: nothing, a comma, or the key of the next entry. -/
inductive EndsValue : List Token → Prop
  | nothing : EndsValue []
  | comma (joint : Bool) (ts : List Token) : EndsValue (.mark ',' joint :: ts)
  | key {raw name} (ts : List Token) : isName raw name = true → EndsValue (.word raw name :: ts)

namespace EndsValue

variable {rest : List Token}

theorem eq_comma (h : EndsValue rest) {c : Char} (hc : firstMark? rest = some c) : c = ',' := by
  cases h with
  | nothing => simp [firstMark?] at hc
  | comma => simpa [firstMark?, eq_comm] using hc
  | key => simp [firstMark?] at hc

theorem not_atMark (h : EndsValue rest) (spelling : String)
    (hs : spelling.toList.head? ≠ some ',') : atMark spelling rest = false :=
  atMark_eq_false fun _ hc => h.eq_comma hc ▸ hs

theorem not_atGroup (h : EndsValue rest) (d : Delimiter) : atGroup d rest = false := by
  cases h <;> rfl

theorem not_atWord (h : EndsValue rest) (text : String) (htext : text ∈ keywords) :
    atWord text rest = false := by
  cases h with
  | nothing => rfl
  | comma => rfl
  | @key raw name _ hname =>
      cases raw with
      | true => rfl
      | false =>
          simp only [atWord, beq_eq_false_iff_ne]
          rintro rfl
          simp [isName, htext] at hname

theorem not_operator (h : EndsValue rest) : operator? rest = none := by
  have hmarks : ∀ entry ∈ operatorTable, entry.1.toList.head? ≠ some ',' := by decide
  simp only [operator?, List.find?_eq_none, Bool.not_eq_true]
  exact fun entry hentry => h.not_atMark entry.1 (hmarks entry hentry)

end EndsValue

inductive EntryValue where
  | text (value source : String)
  | number (kind : LiteralKind) (source : String) (isNumber : kind.isNumber = true)
  /-- A path, and the tokens as which it is written back. -/
  | path (tokens written : List Token) (isPath : IsPath tokens written)

namespace EntryValue

def tokens : EntryValue → List Token
  | .text value source => [.literal (.text value) source]
  | .number kind source _ => [.literal kind source]
  | .path tokens _ _ => tokens

/-- The expression that the value is. -/
def expression : EntryValue → Expression
  | .text value source => { tokens := [.literal (.text value) source], shape := .text value }
  | .number kind source _ => { tokens := [.literal kind source] }
  | .path _ written _ => { tokens := written }

def text? : EntryValue → Option String
  | .text value _ => some value
  | _ => none

variable {rest : List Token}

theorem shape_ne (v : EntryValue) :
    v.expression.shape ≠ .range ∧ v.expression.shape ≠ .verbatim := by
  cases v <;> simp [expression]

theorem not_atMark (v : EntryValue) (rest : List Token) (spelling : String)
    (hs : spelling.toList.head? ≠ some ':') : atMark spelling (v.tokens ++ rest) = false := by
  cases v with
  | text => exact atMark_eq_false (by simp [tokens, firstMark?])
  | number => exact atMark_eq_false (by simp [tokens, firstMark?])
  | path ts ws h => exact (StartsPath.of_isPath h rest).not_atMark spelling hs

theorem reads_literal (kind : LiteralKind) (source : String) :
    literal.Reads (.literal kind source :: rest) [.literal kind source] rest :=
  reads_rest.bind ((reads_advance rest).bind (reads_pure _))

theorem reads_ofPath {ts ws : List Token} (h : IsPath ts ws) {depth : Nat}
    (hdepth : 8 * Token.weightAll ts ≤ depth) (hrest : EndsValue rest) :
    (Expression.ofPath (Phrases.ofDepth depth) true).Reads (ts ++ rest) { tokens := ws }
      rest := by
  obtain ⟨p, rfl, hreads⟩ := Path.reads_parse h hdepth (hrest.not_atMark "<" (by decide))
    (hrest.not_atMark "::" (by decide)) true
  have hbang : atBang rest = false := by simp [atBang, hrest.not_atMark "!" (by decide)]
  have hpath : (pathInExpression (Phrases.ofDepth depth)).Reads (ts ++ rest) (p, false) rest :=
    Reads.of_not_seen ((StartsPath.of_isPath h rest).not_atMark "<" (by decide))
      (hreads.bind (reads_pure _))
  refine hpath.bind (reads_rest.bind ?_)
  simp only [hbang, hrest.not_atGroup, Bool.and_false, Bool.false_eq_true, if_false]
  exact reads_pure _

theorem not_second_hash {ts ws : List Token} (h : IsPath ts ws) (hrest : EndsValue rest) :
    second (atMark "#") (ts ++ rest) = false := by
  cases h with
  | plain hsegment hmore =>
      cases hsegment with
      | word =>
          cases hmore with
          | nil => exact hrest.not_atMark "#" (by decide)
          | cons => rfl
      | arguments => rfl
  | rooted => rfl

theorem reads_atom_of_isPath {ts ws : List Token} (h : IsPath ts ws) {depth : Nat}
    (hdepth : 8 * Token.weightAll ts ≤ depth) (hrest : EndsValue rest) :
    (Expression.atom (Phrases.ofDepth depth) true).Reads (ts ++ rest) { tokens := ws } rest := by
  have hstart := StartsPath.of_isPath h rest
  have hasync : atAsyncBlock (ts ++ rest) = false := by
    simp [atAsyncBlock, hstart.not_atWord "async" (by decide)]
  have hclosure : atClosure (ts ++ rest) = false := by
    simp [atClosure, atClosureBinder, hstart.not_atMark "|" (by decide),
      hstart.not_atWord "move" (by decide), hstart.not_atWord "for" (by decide),
      hstart.not_atWord "const" (by decide), hstart.not_atWord "static" (by decide),
      hstart.not_atWord "async" (by decide)]
  refine reads_rest.bind ?_
  simp only [hstart.not_atLiteral, hasync, hclosure, not_second_hash h hrest, hstart.atPath,
    Bool.and_false, Bool.false_eq_true, if_false, if_true]
  exact reads_ofPath h hdepth hrest

/-- A value on its own is read up to what ends it. -/
theorem reads_atom (v : EntryValue) {depth : Nat} (hdepth : 8 * Token.weightAll v.tokens ≤ depth)
    (hrest : EndsValue rest) :
    (Expression.atom (Phrases.ofDepth depth) true).Reads (v.tokens ++ rest) v.expression
      rest := by
  cases v with
  | text value source =>
      exact reads_rest.bind (reads_rest.bind ((reads_literal _ source).bind (reads_pure _)))
  | number kind source h =>
      cases kind with
      | text => cases h
      | other => cases h
      | integer =>
          exact reads_rest.bind (reads_rest.bind ((reads_literal _ source).bind (reads_pure _)))
      | float =>
          exact reads_rest.bind (reads_rest.bind ((reads_literal _ source).bind (reads_pure _)))
  | path ts ws h => exact reads_atom_of_isPath h hdepth hrest

theorem reads_trailers (g : Phrases) (e : Expression) (hrest : EndsValue rest) :
    (Expression.trailers g e).Reads rest e rest := by
  have hpoint : atPoint rest = false := by simp [atPoint, hrest.not_atMark "." (by decide)]
  refine Reads.repeated_done (reads_rest.bind ?_)
  simp only [hrest.not_atGroup, hpoint, hrest.not_atMark "?" (by decide), Bool.false_and,
    Bool.false_eq_true, if_false]
  exact reads_pure _

theorem reads_operation (g : Phrases) {e : Expression} (he : e.shape ≠ .range)
    (hrest : EndsValue rest) : (Expression.operation g true .lowest e).Reads rest e rest := by
  have hassignment : atAssignment rest = false := by
    simp [atAssignment, hrest.not_atMark "=" (by decide)]
  refine Reads.repeated_done (reads_rest.bind ?_)
  simp only [he, hrest.not_operator, hassignment, hrest.not_atMark ".." (by decide),
    hrest.not_atWord "as" (by decide), Bool.and_false, Bool.false_eq_true, if_false]
  exact reads_pure _

theorem reads_outerAttributes (g : Phrases) {ts : List Token} (h : atMark "#" ts = false) :
    (outerAttributes g).Reads ts [] ts := by
  have hnone : (Attribute.before g).Reads ts [] ts :=
    Reads.repeated_done (Reads.of_not_seen h (reads_pure _))
  exact hnone.bind (reads_pure _)

theorem reads_operand (v : EntryValue) {depth : Nat}
    (hdepth : 8 * Token.weightAll v.tokens ≤ depth) (hrest : EndsValue rest) :
    (Phrases.ofDepth (depth + 1)).operand true |>.Reads (v.tokens ++ rest) v.expression rest := by
  have hmarks : atMarks ["*", "!", "-"] (v.tokens ++ rest) = false := by
    simp [atMarks, v.not_atMark rest "*" (by decide), v.not_atMark rest "!" (by decide),
      v.not_atMark rest "-" (by decide)]
  refine reads_rest.bind
    ((reads_outerAttributes _ (v.not_atMark rest "#" (by decide))).bind (reads_rest.bind ?_))
  simp only [v.not_atMark rest "&" (by decide), hmarks, Bool.false_eq_true, if_false]
  refine (v.reads_atom hdepth hrest).bind ((reads_trailers _ _ hrest).bind ?_)
  simp only [v.shape_ne, if_false, decide_false, Bool.false_and, Bool.false_eq_true]
  exact reads_pure _

/-- The value as an expression: nothing after it belongs to it. -/
theorem reads_expression (v : EntryValue) {depth : Nat}
    (hdepth : 8 * Token.weightAll v.tokens ≤ depth) (hrest : EndsValue rest) :
    ((Phrases.ofDepth (depth + 2)).expression true).Reads (v.tokens ++ rest) v.expression rest :=
  (v.reads_operand hdepth hrest).bind (reads_operation _ v.shape_ne.1 hrest)

end EntryValue

/-- A key and its value. -/
structure Assignment where
  key : String
  value : EntryValue

namespace Assignment

/-- The error that the assignment is, if it is one: its key is unknown, or its value is no text
where one is needed. -/
def fault? (a : Assignment) : Option DeclarationError :=
  if a.key = "name" ∨ a.key = "symbol" then
    match a.value.text? with
    | some _ => none
    | none => some (.grammar (.expected ["string literal"] false))
  else if a.key = "dimension" ∨ a.key = "factor" then none
  else some (.unknownKey a.key)

theorem cases_of_fault?_eq_none {a : Assignment} (h : a.fault? = none) :
    ((a.key = "name" ∨ a.key = "symbol") ∧ ∃ value source, a.value = .text value source) ∨
      a.key = "dimension" ∨ a.key = "factor" := by
  unfold fault? at h
  split at h
  · rename_i hkey
    refine .inl ⟨hkey, ?_⟩
    cases hvalue : a.value with
    | text value source => exact ⟨value, source, rfl⟩
    | number => simp [hvalue, EntryValue.text?] at h
    | path => simp [hvalue, EntryValue.text?] at h
  · split at h
    · exact .inr ‹_›
    · cases h

theorem cases_of_fault?_eq_some {a : Assignment} {error : DeclarationError}
    (h : a.fault? = some error) :
    ((a.key = "name" ∨ a.key = "symbol") ∧ a.value.text? = none ∧
        error = .grammar (.expected ["string literal"] false)) ∨
      (a.key ∉ ["name", "symbol", "dimension", "factor"] ∧ error = .unknownKey a.key) := by
  unfold fault? at h
  split at h
  · rename_i hkey
    split at h
    · cases h
    · exact .inl ⟨hkey, ‹_›, (Option.some.inj h).symm⟩
  · split at h
    · cases h
    · exact .inr ⟨by simp_all, (Option.some.inj h).symm⟩

/-- The value of the last assignment to a key. -/
def last? (key : String) (as : List Assignment) : Option EntryValue :=
  (as.reverse.find? fun a => a.key = key).map Assignment.value

theorem last?_concat (key : String) (as : List Assignment) (a : Assignment) :
    last? key (as ++ [a]) = if a.key = key then some a.value else last? key as := by
  simp only [last?, List.reverse_append, List.reverse_cons, List.reverse_nil, List.nil_append,
    List.cons_append, List.find?_cons]
  by_cases h : a.key = key <;> simp [h]

end Assignment

/-- The settings after some assignments. -/
def Settings.ofAssignments (as : List Assignment) : Settings where
  name := (Assignment.last? "name" as).bind EntryValue.text?
  symbol := (Assignment.last? "symbol" as).bind EntryValue.text?
  dimension := (Assignment.last? "dimension" as).map EntryValue.expression
  factor := (Assignment.last? "factor" as).map EntryValue.expression

theorem Scan.Reads.read_eq {α : Type} {scan : Scan α} {ts rest : List Token} {a : α}
    (h : scan.Reads ts a rest) (stray : Option Delimiter) :
    scan.read ⟨ts, stray⟩ = .ok (a, ⟨rest, stray⟩) := by
  rw [Scan.read, h stray]

namespace Settings

variable {a : Assignment} {rest : List Token} {depth : Nat}

theorem ofAssignments_concat_text {value source : String} (read : List Assignment)
    (hvalue : a.value = .text value source) :
    (a.key = "name" →
      ofAssignments (read ++ [a]) = { ofAssignments read with name := some value }) ∧
      (a.key = "symbol" →
        ofAssignments (read ++ [a]) = { ofAssignments read with symbol := some value }) := by
  constructor <;> intro hkey <;>
    simp [ofAssignments, Assignment.last?_concat, hkey, hvalue, EntryValue.text?]

theorem ofAssignments_concat_expression (read : List Assignment) :
    (a.key = "dimension" →
      ofAssignments (read ++ [a]) =
        { ofAssignments read with dimension := some a.value.expression }) ∧
      (a.key = "factor" →
        ofAssignments (read ++ [a]) =
          { ofAssignments read with factor := some a.value.expression }) := by
  constructor <;> intro hkey <;> simp [ofAssignments, Assignment.last?_concat, hkey]

theorem reads_textValue (value source : String) :
    textValue.Reads ((EntryValue.text value source).tokens ++ rest) value rest :=
  reads_rest.bind ((reads_advance rest).bind (reads_pure _))

/-- One step: an assignment without fault is read as a whole, and counts from now on. -/
theorem take_of_fault?_eq_none (hfault : a.fault? = none)
    (hdepth : 8 * Token.weightAll a.value.tokens ≤ depth) (hrest : EndsValue rest)
    (read : List Assignment) (stray : Option Delimiter) :
    (ofAssignments read).take (Phrases.ofDepth (depth + 2)) a.key
      ⟨a.value.tokens ++ rest, stray⟩ =
      .ok (ofAssignments (read ++ [a]), ⟨rest, stray⟩) := by
  obtain ⟨hkey, value, source, hvalue⟩ | hkey := Assignment.cases_of_fault?_eq_none hfault
  · obtain ⟨hname, hsymbol⟩ := ofAssignments_concat_text read hvalue
    obtain hkey | hkey := hkey
    · rw [hname hkey, hkey, hvalue, take, (reads_textValue value source).read_eq]
      rfl
    · rw [hsymbol hkey, hkey, hvalue, take, (reads_textValue value source).read_eq]
      rfl
  · have hexpression := a.value.reads_expression hdepth hrest
    obtain ⟨hdimension, hfactor⟩ := ofAssignments_concat_expression (a := a) read
    obtain hkey | hkey := hkey
    · rw [hdimension hkey, hkey, take, hexpression.read_eq]
      rfl
    · rw [hfactor hkey, hkey, take, hexpression.read_eq]
      rfl

theorem read_textValue_of_not_text {v : EntryValue} (h : v.text? = none) (rest : List Token)
    (stray : Option Delimiter) :
    textValue.read ⟨v.tokens ++ rest, stray⟩ =
      .error (.grammar (.expected ["string literal"] false)) := by
  cases v with
  | text => cases h
  | number kind _ hkind =>
      cases kind with
      | text => cases hkind
      | integer | float | other => rfl
  | path ts ws hpath =>
      have hstart := StartsPath.of_isPath hpath rest
      rw [EntryValue.tokens]
      generalize ts ++ rest = us at hstart
      cases hstart <;> rfl

/-- An assignment at fault stops the reading, whatever comes after it. -/
theorem take_of_fault?_eq_some {error : DeclarationError} (hfault : a.fault? = some error)
    (g : Phrases) (settings : Settings) (stray : Option Delimiter) :
    settings.take g a.key ⟨a.value.tokens ++ rest, stray⟩ = .error error := by
  obtain ⟨hkey, htext, rfl⟩ | ⟨hkey, rfl⟩ := Assignment.cases_of_fault?_eq_some hfault
  · obtain hkey | hkey := hkey <;>
    · rw [hkey, take, read_textValue_of_not_text htext]
      rfl
  · unfold take
    split <;> simp_all

end Settings

/-- An assignment as it stands in an attribute, with the comma after it if there is one. -/
structure Entry where
  raw : Bool
  name : String
  isName : isName raw name = true
  /-- The equals sign is joint to a mark after it. -/
  joint : Bool
  value : EntryValue
  comma : Option Bool

namespace Entry

def tokens (e : Entry) : List Token :=
  .word e.raw e.name :: .mark '=' e.joint ::
    (e.value.tokens ++ (e.comma.map (Token.mark ',')).toList)

def tokensAll (es : List Entry) : List Token :=
  es.flatMap tokens

def assignment (e : Entry) : Assignment :=
  ⟨wordText e.raw e.name, e.value⟩

variable {e : Entry} {rest : List Token}

theorem reads_entryKey (e : Entry) (ts : List Token) :
    entryKey.Reads (.word e.raw e.name :: .mark '=' e.joint :: ts) e.assignment.key ts := by
  have hkey : Token.textAll [.word e.raw e.name] = e.assignment.key := by
    simp [Token.textAll, Token.text, assignment]
  rw [← hkey]
  have hequals : (discard (mark "=")).Reads (.mark '=' e.joint :: ts) () ts :=
    (reads_mark "=" rfl).discard
  exact (reads_name e.isName).bind (hequals.bind (reads_pure _))

/-- What may stand after an entry: nothing, or the next key. -/
def Ends (rest : List Token) : Prop :=
  EndsValue rest ∧ firstMark? rest = none

theorem ends_tokensAll (hrest : Ends rest) (es : List Entry) : Ends (tokensAll es ++ rest) := by
  cases es with
  | nil => exact hrest
  | cons e es => exact ⟨.key _ e.isName, rfl⟩

theorem Ends.endsValue (hrest : Ends rest) (comma : Option Bool) :
    EndsValue ((comma.map (Token.mark ',')).toList ++ rest) := by
  cases comma with
  | none => exact hrest.1
  | some joint => exact .comma joint rest

theorem reads_comma (hrest : Ends rest) (comma : Option Bool) :
    (optionalMark ",").Reads ((comma.map (Token.mark ',')).toList ++ rest)
      (comma.map (Token.mark ',')).toList rest := by
  cases comma with
  | none => exact reads_whenSeen_of_not (atMark_eq_false (by simp [hrest.2])) _
  | some joint => exact reads_optionalMark "," rfl

end Entry

namespace Settings

open Entry

variable {e : Entry} {rest : List Token} {depth : Nat}

theorem takeAll_cons (g : Phrases) (fuel : Nat) (settings : Settings) (t : Token)
    (ts : List Token) (stray : Option Delimiter) :
    takeAll g (fuel + 1) settings ⟨t :: ts, stray⟩ = (do
      let (key, source) ← entryKey.read ⟨t :: ts, stray⟩
      let (settings, source) ← settings.take g key source
      let (_, source) ← (optionalMark ",").read source
      takeAll g fuel settings source) :=
  rfl

theorem takeAll_entry (hfault : e.assignment.fault? = none)
    (hdepth : 8 * Token.weightAll e.value.tokens ≤ depth) (hrest : Ends rest)
    (read : List Assignment) (stray : Option Delimiter) (fuel : Nat) :
    takeAll (Phrases.ofDepth (depth + 2)) (fuel + 1) (ofAssignments read)
      ⟨e.tokens ++ rest, stray⟩ =
      takeAll (Phrases.ofDepth (depth + 2)) fuel (ofAssignments (read ++ [e.assignment]))
        ⟨rest, stray⟩ := by
  have htake := take_of_fault?_eq_none hfault hdepth (hrest.endsValue e.comma) read stray
  rw [tokens, List.cons_append, List.cons_append, List.append_assoc, takeAll_cons,
    (reads_entryKey e _).read_eq]
  change (take _ _ e.assignment.key ⟨e.assignment.value.tokens ++ _, stray⟩ >>= _) = _
  rw [htake]
  change ((optionalMark ",").read ⟨_ ++ rest, stray⟩ >>= _) = _
  rw [(reads_comma hrest e.comma).read_eq]
  rfl

theorem takeAll_of_fault {error : DeclarationError} (hfault : e.assignment.fault? = some error)
    (g : Phrases) (settings : Settings) (stray : Option Delimiter) (fuel : Nat) :
    takeAll g (fuel + 1) settings ⟨e.tokens ++ rest, stray⟩ = .error error := by
  rw [tokens, List.cons_append, List.cons_append, List.append_assoc, takeAll_cons,
    (reads_entryKey e _).read_eq]
  change (take g settings e.assignment.key ⟨e.assignment.value.tokens ++ _, stray⟩ >>= _) = _
  rw [take_of_fault?_eq_some hfault]
  rfl

/-- The run: entries without fault are read one after the other, and the settings are those of all
of them. -/
theorem takeAll_entries {es : List Entry} (hfine : ∀ e ∈ es, e.assignment.fault? = none)
    (hdepth : 8 * Token.weightAll (tokensAll es) ≤ depth) (hrest : Ends rest)
    (read : List Assignment) (stray : Option Delimiter) (fuel : Nat) :
    takeAll (Phrases.ofDepth (depth + 2)) (es.length + fuel) (ofAssignments read)
      ⟨tokensAll es ++ rest, stray⟩ =
      takeAll (Phrases.ofDepth (depth + 2)) fuel (ofAssignments (read ++ es.map assignment))
        ⟨rest, stray⟩ := by
  -- The settings at each step are those of the entries before it, so `read` grows along the list.
  induction es generalizing read with
  | nil => simp [tokensAll]
  | cons e es ih =>
      have hweight : Token.weightAll (tokensAll (e :: es)) =
          2 + Token.weightAll e.value.tokens +
            Token.weightAll (e.comma.map (Token.mark ',')).toList +
            Token.weightAll (tokensAll es) := by
        simp only [tokensAll, List.flatMap_cons, tokens, Token.weightAll_append, Token.weightAll,
          Token.weight]
        omega
      have hhead : tokensAll (e :: es) ++ rest = e.tokens ++ (tokensAll es ++ rest) := by
        simp [tokensAll, List.append_assoc]
      have hlength : (e :: es).length + fuel = es.length + fuel + 1 := by
        simp only [List.length_cons]
        omega
      rw [hhead, hlength, takeAll_entry (hfine e (by simp)) (by omega) (ends_tokensAll hrest es),
        ih (fun e he => hfine e (by simp [he])) (by omega)]
      simp

end Settings

namespace UnitAttribute

open Entry Settings

theorem parse_eq_takeAll (ts : List Token) :
    parse ts = (do
      let (settings, source) ←
        takeAll (Phrases.ofDepth (8 * Token.weightAll ts + 6 + 2)) ts.length (ofAssignments [])
          ⟨ts, none⟩
      let unit ← settings.complete
      match source.stray with
      | none => return unit
      | some d => throw (.grammar (.stray (some d)))) :=
  rfl

theorem length_le_length_tokensAll (es : List Entry) : es.length ≤ (tokensAll es).length := by
  induction es with
  | nil => simp
  | cons e es ih =>
      simp only [tokensAll, List.flatMap_cons, tokens, List.length_append,
        List.length_cons] at ih ⊢
      omega

/-- The first entry at fault decides the error, whatever comes after it. -/
theorem parse_of_fault {before : List Entry} (hfine : ∀ e ∈ before, e.assignment.fault? = none)
    {e : Entry} {error : DeclarationError} (hfault : e.assignment.fault? = some error)
    (ts : List Token) : parse (tokensAll before ++ (e.tokens ++ ts)) = .error error := by
  have hlength : (tokensAll before ++ (e.tokens ++ ts)).length =
      before.length +
        ((tokensAll before).length - before.length + (e.tokens.tail ++ ts).length + 1) := by
    have := length_le_length_tokensAll before
    simp only [tokens, List.length_append, List.length_cons, List.tail_cons]
    omega
  have hdepth : 8 * Token.weightAll (tokensAll before) ≤
      8 * Token.weightAll (tokensAll before ++ (e.tokens ++ ts)) + 6 := by
    rw [Token.weightAll_append]
    omega
  have hnext : Ends (e.tokens ++ ts) := ⟨.key _ e.isName, rfl⟩
  rw [parse_eq_takeAll, hlength, takeAll_entries hfine hdepth hnext, takeAll_of_fault hfault]
  rfl

/-- All tokens of entries without fault are read. -/
theorem takeAll_tokensAll {es : List Entry} (hfine : ∀ e ∈ es, e.assignment.fault? = none) :
    takeAll (Phrases.covering (tokensAll es)) (tokensAll es).length {} ⟨tokensAll es, none⟩ =
      .ok (ofAssignments (es.map assignment), ⟨[], none⟩) := by
  obtain ⟨fuel, hfuel⟩ := Nat.exists_eq_add_of_le (length_le_length_tokensAll es)
  have hdepth : 8 * Token.weightAll (tokensAll es) ≤ 8 * Token.weightAll (tokensAll es) + 6 := by
    omega
  have hrun := takeAll_entries hfine hdepth ⟨.nothing, rfl⟩ [] none fuel
  rw [List.append_nil, ← hfuel, List.nil_append] at hrun
  refine Eq.trans hrun ?_
  rw [takeAll]

theorem parse_tokensAll {es : List Entry} (hfine : ∀ e ∈ es, e.assignment.fault? = none) :
    parse (tokensAll es) = (ofAssignments (es.map assignment)).complete := by
  rw [parse, takeAll_tokensAll hfine]
  change ((ofAssignments (es.map assignment)).complete >>= pure) = _
  exact bind_pure _

end UnitAttribute

namespace Assignment

/-- The first of the keys that must be assigned and is not. -/
def firstMissing? (as : List Assignment) : Option String :=
  ["name", "symbol", "dimension"].find? fun key => (last? key as).isNone

/-- What assignments declare. -/
inductive Outcome (as : List Assignment) : Except DeclarationError UnitAttribute → Prop
  | fault {error} : as.findSome? fault? = some error → Outcome as (.error error)
  | missing {key} : as.findSome? fault? = none → firstMissing? as = some key →
    Outcome as (.error (.missingKey key))
  | emptySymbol : as.findSome? fault? = none → firstMissing? as = none →
      (last? "symbol" as).bind EntryValue.text? = some "" → Outcome as (.error .emptySymbol)
  | declared {unit : UnitAttribute} : as.findSome? fault? = none →
      (last? "name" as).bind EntryValue.text? = some unit.name →
      (last? "symbol" as).bind EntryValue.text? = some unit.symbol → unit.symbol ≠ "" →
      (last? "dimension" as).map EntryValue.expression = some unit.dimension →
      (last? "factor" as).map EntryValue.expression = unit.factor → Outcome as (.ok unit)

variable {as as' : List Assignment} {key : String} {v : EntryValue}

theorem exists_mem_of_last? (h : last? key as = some v) :
    ∃ a ∈ as, a.key = key ∧ a.value = v := by
  obtain ⟨a, ha, rfl⟩ := Option.map_eq_some_iff.1 h
  exact ⟨a, List.mem_reverse.1 (List.mem_of_find?_eq_some ha), by simpa using List.find?_some ha,
    rfl⟩

theorem exists_text_of_last? (hfine : as.findSome? fault? = none)
    (hkey : key = "name" ∨ key = "symbol") (h : last? key as = some v) :
    ∃ text, v.text? = some text := by
  obtain ⟨a, ha, rfl, rfl⟩ := exists_mem_of_last? h
  have hfault := List.findSome?_eq_none_iff.1 hfine a ha
  obtain ⟨-, text, source, hvalue⟩ | hother := cases_of_fault?_eq_none hfault
  · exact ⟨text, by rw [hvalue, EntryValue.text?]⟩
  · obtain h | h := hkey <;> simp [h] at hother

theorem bind_text?_eq_none_iff (hfine : as.findSome? fault? = none)
    (hkey : key = "name" ∨ key = "symbol") :
    (last? key as).bind EntryValue.text? = none ↔ last? key as = none := by
  cases h : last? key as with
  | none => simp
  | some v =>
      obtain ⟨text, htext⟩ := exists_text_of_last? hfine hkey h
      simp [htext]

theorem firstMissing?_eq (hfine : as.findSome? fault? = none) :
    firstMissing? as =
      if (Settings.ofAssignments as).name = none then some "name"
      else if (Settings.ofAssignments as).symbol = none then some "symbol"
      else if (Settings.ofAssignments as).dimension = none then some "dimension" else none := by
  simp only [firstMissing?, Settings.ofAssignments, bind_text?_eq_none_iff hfine,
    Option.map_eq_none_iff, List.find?_cons, List.find?_nil, true_or, or_true]
  cases last? "name" as <;> cases last? "symbol" as <;> cases last? "dimension" as <;> rfl

theorem outcome_complete (hfine : as.findSome? fault? = none) :
    Outcome as (Settings.ofAssignments as).complete := by
  have hmissing := firstMissing?_eq hfine
  unfold Settings.complete
  split
  · rename_i hname
    exact .missing hfine (by simp [hmissing, hname])
  · rename_i hname hsymbol
    exact .missing hfine (by simp_all)
  · rename_i hname hsymbol hdimension
    exact .missing hfine (by simp_all)
  · rename_i name symbol dimension hname hsymbol hdimension
    split
    · rename_i hempty
      exact .emptySymbol hfine (by simp_all) (hempty ▸ hsymbol)
    · rename_i hnonempty
      exact .declared hfine hname hsymbol hnonempty hdimension rfl

theorem Outcome.complete_eq {result : Except DeclarationError UnitAttribute}
    (h : Outcome as result) (hfine : as.findSome? fault? = none) :
    (Settings.ofAssignments as).complete = result := by
  have hmissing := firstMissing?_eq hfine
  cases h with
  | fault hfault => simp [hfine] at hfault
  | missing _ hkey =>
      rw [hmissing] at hkey
      unfold Settings.complete
      split <;> simp_all
  | emptySymbol _ hkeys hsymbol =>
      change (Settings.ofAssignments as).symbol = _ at hsymbol
      rw [hmissing] at hkeys
      unfold Settings.complete
      split <;> simp_all
  | @declared unit _ hname hsymbol hnonempty hdimension hfactor =>
      change (Settings.ofAssignments as).name = _ at hname
      change (Settings.ofAssignments as).symbol = _ at hsymbol
      change (Settings.ofAssignments as).dimension = _ at hdimension
      change (Settings.ofAssignments as).factor = _ at hfactor
      simp [Settings.complete, hname, hsymbol, hdimension, hnonempty, hfactor]

theorem last?_eq_some_iff (hkeys : (as.map Assignment.key).Nodup) :
    last? key as = some v ↔ ∃ a ∈ as, a.key = key ∧ a.value = v := by
  refine ⟨exists_mem_of_last?, ?_⟩
  rintro ⟨a, ha, rfl, rfl⟩
  cases h : last? a.key as with
  | none =>
      have hnone := Option.map_eq_none_iff.1 h
      exact absurd (List.find?_eq_none.1 hnone a (List.mem_reverse.2 ha)) (by simp)
  | some w =>
      obtain ⟨b, hb, hkey, rfl⟩ := exists_mem_of_last? h
      rw [List.inj_on_of_nodup_map hkeys hb ha hkey]

theorem last?_perm (hperm : as.Perm as') (hkeys : (as.map Assignment.key).Nodup) (key : String) :
    last? key as = last? key as' := by
  refine Option.ext fun v => ?_
  rw [last?_eq_some_iff hkeys, last?_eq_some_iff ((hperm.map _).nodup_iff.1 hkeys)]
  simp only [hperm.mem_iff]

theorem Outcome.perm {unit : UnitAttribute} (h : Outcome as (.ok unit)) (hperm : as.Perm as')
    (hkeys : (as.map Assignment.key).Nodup) : Outcome as' (.ok unit) := by
  cases h with
  | declared hfine hname hsymbol hnonempty hdimension hfactor =>
      rw [last?_perm hperm hkeys] at hname hsymbol hdimension hfactor
      refine .declared ?_ hname hsymbol hnonempty hdimension hfactor
      simp only [List.findSome?_eq_none_iff, ← hperm.mem_iff] at hfine ⊢
      exact hfine

end Assignment

open Entry

theorem UnitAttribute.parse_eq_iff (es : List Entry)
    (result : Except DeclarationError UnitAttribute) :
    UnitAttribute.parse (tokensAll es) = result ↔
      Assignment.Outcome (es.map assignment) result := by
  cases hfault : (es.map assignment).findSome? Assignment.fault? with
  | some error =>
      have hparse : UnitAttribute.parse (tokensAll es) = .error error := by
        rw [List.findSome?_map] at hfault
        obtain ⟨before, e, after, rfl, he, hfine⟩ := List.findSome?_eq_some_iff.1 hfault
        simpa [tokensAll] using UnitAttribute.parse_of_fault hfine he (tokensAll after)
      rw [hparse]
      constructor
      · rintro rfl
        exact .fault hfault
      · intro h
        cases h <;> simp_all
  | none =>
      have hfine : ∀ e ∈ es, e.assignment.fault? = none := by simpa using hfault
      rw [UnitAttribute.parse_tokensAll hfine]
      constructor
      · rintro rfl
        exact Assignment.outcome_complete hfault
      · exact fun h => h.complete_eq hfault

theorem unitAttribute_append {before : List Attribute} {a : Attribute}
    (hbefore : ∀ b ∈ before, b.isCalled "unit" = false) (ha : a.isCalled "unit" = true)
    (after : List Attribute) : unitAttribute (before ++ a :: after) = unitAttribute [a] := by
  induction before with
  | nil => simp [unitAttribute, ha]
  | cons b before ih =>
      rw [List.cons_append, unitAttribute, if_neg (by simp [hbefore b])]
      exact ih fun b hb => hbefore b (by simp [hb])

/-- What entries declare: their outcome is decided by the keys and values alone. Reading ends with
the last of them, or with the first one at fault, whatever comes after it. Commas make no
difference, nor does the order of different keys to what has been declared. Of the attributes of
an item, only the first one that is called `unit` counts. -/
theorem entries_decide_unit :
    (∀ (es : List Entry) (result : Except DeclarationError UnitAttribute),
      UnitAttribute.parse (tokensAll es) = result ↔
        Assignment.Outcome (es.map assignment) result) ∧
    (∀ es : List Entry, (∀ e ∈ es, e.assignment.fault? = none) →
      Settings.takeAll (Phrases.covering (tokensAll es)) (tokensAll es).length {}
        ⟨tokensAll es, none⟩ =
        .ok (Settings.ofAssignments (es.map assignment), ⟨[], none⟩)) ∧
    (∀ (before : List Entry) (e : Entry) (error : DeclarationError) (ts : List Token),
      (∀ b ∈ before, b.assignment.fault? = none) → e.assignment.fault? = some error →
        UnitAttribute.parse (tokensAll before ++ (e.tokens ++ ts)) = .error error) ∧
    (∀ es es' : List Entry, es.map assignment = es'.map assignment →
      UnitAttribute.parse (tokensAll es) = UnitAttribute.parse (tokensAll es')) ∧
    (∀ (es es' : List Entry) (unit : UnitAttribute),
      (es.map assignment).Perm (es'.map assignment) →
      (es.map fun e => e.assignment.key).Nodup → UnitAttribute.parse (tokensAll es) = .ok unit →
        UnitAttribute.parse (tokensAll es') = .ok unit) ∧
    (∀ (before after : List Attribute) (a : Attribute) (type : String),
      (∀ b ∈ before, b.isCalled "unit" = false) → a.isCalled "unit" = true →
        ofItem ⟨before ++ a :: after, type⟩ = ofItem ⟨[a], type⟩ ∧
        ∀ ts, a.content = .arguments ts →
          unitAttribute (before ++ a :: after) = UnitAttribute.parse ts) := by
  refine ⟨UnitAttribute.parse_eq_iff, fun es hfine => UnitAttribute.takeAll_tokensAll hfine,
    fun before e error ts hfine hfault => UnitAttribute.parse_of_fault hfine hfault ts, ?_, ?_,
    ?_⟩
  · intro es es' h
    rw [UnitAttribute.parse_eq_iff, h, ← UnitAttribute.parse_eq_iff]
  · intro es es' unit hperm hkeys h
    rw [UnitAttribute.parse_eq_iff] at h ⊢
    exact h.perm hperm (by rwa [List.map_map])
  · intro before after a type hbefore ha
    refine ⟨?_, fun ts hts => ?_⟩
    · rw [ofItem, ofItem, unitAttribute_append hbefore ha]
    · rw [unitAttribute_append hbefore ha]
      simp [unitAttribute, ha, hts]

/-- The path `Dimensions::<P1, -1, (Z0, ()), <Z0 as Integer>::Output, 'a>`, which is written back
with the lifetime in front. -/
def EntryValue.lengthPath : EntryValue :=
  have isPlain (name : String) (h : isName false name = true) :
      IsPath [.word false name] [.word false name] :=
    .plain (.word (by simp [isSegmentWord, h])) .nil
  have hzero : IsType [.word false "Z0"] [.word false "Z0"] := isType_of_isPath (isPlain "Z0" rfl)
  have hword : isSegmentWord false "Output" = true := rfl
  have hnumber : LiteralKind.isNumber (.integer 1 "") = true := rfl
  have houtput :=
    isType_qualified false true false hzero (.path (isPlain "Integer" rfl)) (.word hword) .nil
  have harguments :=
    IsArguments.cons false (isArgument_of_isType (isType_of_isPath (isPlain "P1" rfl)))
      (.cons false (isArgument_of_isLiteral (.negative false "1" hnumber))
      (.cons false (isArgument_of_isType (isType_tuple false hzero (.last isType_unit)))
      (.cons false (isArgument_of_isType houtput) (.last (isArgument_lifetime false "a")))))
  have hname : isName false "Dimensions" = true := rfl
  .path _ _ (.plain (.arguments true false false (.inl hname) harguments) .nil)

namespace Entry

def ofName (name : String) (comma : Option Bool) : Entry :=
  ⟨false, "name", rfl, false, .text name (quoted name), comma⟩

def ofSymbol (symbol : String) (comma : Option Bool) : Entry :=
  ⟨false, "symbol", rfl, false, .text symbol (quoted symbol), comma⟩

def ofDimension (dimension : EntryValue) (comma : Option Bool) : Entry :=
  ⟨false, "dimension", rfl, false, dimension, comma⟩

/-- A length with two symbols, of which the last one counts; the comma between them may be
missing. -/
def lengthUnit (comma : Option Bool) : List Entry :=
  [ofSymbol "x" comma, ofName "metre" comma, ofDimension .lengthPath none,
   ofSymbol "m" (some false)]

end Entry

theorem entries_decide_unit_length :
    UnitAttribute.parse (tokensAll (lengthUnit none)) =
        .ok ⟨"metre", "m", EntryValue.lengthPath.expression, none⟩ ∧
      UnitAttribute.parse (tokensAll (lengthUnit (some true))) =
        UnitAttribute.parse (tokensAll (lengthUnit none)) ∧
      UnitAttribute.parse (tokensAll (lengthUnit none).tail.reverse) =
        .ok ⟨"metre", "m", EntryValue.lengthPath.expression, none⟩ ∧
      (∀ ts, UnitAttribute.parse (tokensAll (lengthUnit none) ++
        (Entry.tokens ⟨true, "name", rfl, false, .number .float "2.0" rfl, none⟩ ++ ts)) =
          .error (.unknownKey "r#name")) ∧
      (∀ type, ofItem ⟨[⟨[.word false "doc"], .value, []⟩, ⟨[.word false "unit"], .nothing, []⟩,
          ⟨[.word false "unit"], .arguments (tokensAll (lengthUnit none)), []⟩], type⟩ =
        ofItem ⟨[⟨[.word false "unit"], .nothing, []⟩], type⟩) := by
  have hfine : ∀ e ∈ lengthUnit none, e.assignment.fault? = none :=
    List.findSome?_eq_none_iff.1 rfl
  obtain ⟨houtcome, -, hfault, hcommas, hperm, hitem⟩ := entries_decide_unit
  refine ⟨(houtcome _ _).2 (.declared rfl rfl rfl (by decide) rfl rfl), hcommas _ _ rfl, ?_,
    fun ts => ?_, fun type => ?_⟩
  · refine hperm (lengthUnit none).tail _ _ ((List.reverse_perm _).symm.map _) (by decide) ?_
    exact (houtcome _ _).2 (.declared rfl rfl rfl (by decide) rfl rfl)
  · exact hfault _ _ _ ts hfine rfl
  · exact (hitem [_] [_] _ type (by decide) rfl).1

end Declaration

end Metrology
