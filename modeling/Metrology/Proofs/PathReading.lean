import Metrology.Declaration.Grammar

namespace Metrology

namespace Declaration

namespace Scan

variable {α β : Type} {ts mid rest : List Token}

/-- The scan reads the tokens up to `rest`, whatever has been left over before. -/
def Reads (scan : Scan α) (ts : List Token) (a : α) (rest : List Token) : Prop :=
  ∀ stray, scan.run ⟨ts, stray⟩ = .ok (a, ⟨rest, stray⟩)

theorem Reads.bind {scan : Scan α} {next : α → Scan β} {a : α} {b : β} (h : scan.Reads ts a mid)
    (h' : (next a).Reads mid b rest) : (scan >>= next).Reads ts b rest := by
  intro stray
  rw [StateT.run_bind, h stray]
  exact h' stray

theorem reads_pure (a : α) : (pure a : Scan α).Reads ts a ts :=
  fun _ => rfl

theorem Reads.discard {scan : Scan α} {a : α} (h : scan.Reads ts a rest) :
    (discard scan).Reads ts () rest := by
  intro stray
  change (scan.run ⟨ts, stray⟩ >>= fun found => pure ((), found.2)) = _
  rw [h stray]
  rfl

theorem reads_rest : Scan.rest.Reads ts ts ts :=
  fun _ => rfl

theorem reads_advance (after : List Token) : (advance after).Reads ts () after :=
  fun _ => rfl

theorem reads_sees (test : List Token → Bool) : (sees test).Reads ts (test ts) ts :=
  fun _ => rfl

theorem reads_mark (spelling : String) (h : marks? spelling.toList ts = some rest) :
    (mark spelling).Reads ts (ts.take spelling.length) rest := by
  refine reads_rest.bind ?_
  rw [h]
  exact (reads_advance rest).bind (reads_pure _)

section Sees

variable {test : List Token → Bool} {yes no : Scan α} {a : α}

theorem Reads.of_seen (h : test ts = true) (hyes : yes.Reads ts a rest) :
    (do if ← sees test then yes else no).Reads ts a rest := by
  refine (reads_sees test).bind ?_
  rw [h]
  exact hyes

theorem Reads.of_not_seen (h : test ts = false) (hno : no.Reads ts a rest) :
    (do if ← sees test then yes else no).Reads ts a rest := by
  refine (reads_sees test).bind ?_
  rw [h]
  exact hno

end Sees

theorem reads_whenSeen_of_not {test : List Token → Bool} (h : test ts = false) (phrase : Phrase) :
    (whenSeen test phrase).Reads ts [] ts :=
  Reads.of_not_seen h (reads_pure _)

theorem reads_optionalMark (spelling : String) (h : marks? spelling.toList ts = some rest) :
    (optionalMark spelling).Reads ts (ts.take spelling.length) rest :=
  Reads.of_seen (by simp [atMark, h]) (reads_mark spelling h)

theorem reads_name {raw : Bool} {text : String} (h : isName raw text = true) :
    name.Reads (.word raw text :: ts) [.word raw text] ts := by
  refine reads_rest.bind ?_
  simp only [h, if_true]
  exact (reads_advance ts).bind (reads_pure _)

theorem reads_anyWord {raw : Bool} {text : String} :
    anyWord.Reads (.word raw text :: ts) [.word raw text] ts :=
  reads_rest.bind ((reads_advance ts).bind (reads_pure _))

section Repeated

variable {step : α → Scan (ForInStep α)} {a b : α}

theorem Reads.iterate_done (h : (step a).Reads ts (.done b) rest) (fuel : Nat) :
    (iterate step (fuel + 1) a).Reads ts b rest :=
  Reads.bind h (reads_pure _)

theorem Reads.iterate_yield {c : α} (h : (step a).Reads ts (.yield b) mid) {fuel : Nat}
    (h' : (iterate step fuel b).Reads mid c rest) : (iterate step (fuel + 1) a).Reads ts c rest :=
  Reads.bind h h'

theorem Reads.repeated_of_iterate (h : (iterate step (ts.length + 1) a).Reads ts b rest) :
    (repeated step a).Reads ts b rest :=
  reads_rest.bind h

theorem Reads.repeated_done (h : (step a).Reads ts (.done b) rest) :
    (repeated step a).Reads ts b rest :=
  Reads.repeated_of_iterate (h.iterate_done _)

end Repeated

end Scan

theorem Token.weightAll_append (ts us : List Token) :
    Token.weightAll (ts ++ us) = Token.weightAll ts + Token.weightAll us := by
  induction ts with
  | nil => simp [Token.weightAll]
  | cons t ts ih => simp [Token.weightAll, ih, Nat.add_assoc]

section Ahead

/-- The mark with which the tokens start, if they start with one. -/
def firstMark? : List Token → Option Char
  | .mark c _ :: _ => some c
  | _ => none

theorem marks?_eq_none {cs : List Char} {ts : List Token}
    (h : ∀ c, firstMark? ts = some c → cs.head? ≠ some c) : marks? cs ts = none := by
  cases cs with
  | nil => cases ts <;> rfl
  | cons c cs =>
      match ts with
      | .mark d joint :: ts =>
          have hne : c ≠ d := fun hcd => h d rfl (by simp [hcd])
          cases cs <;> cases joint <;> simp [marks?, hne]
      | [] | .word .. :: _ | .lifetime .. :: _ | .literal .. :: _ | .group .. :: _ =>
          cases cs <;> simp [marks?]

theorem atMark_eq_false {spelling : String} {ts : List Token}
    (h : ∀ c, firstMark? ts = some c → spelling.toList.head? ≠ some c) :
    atMark spelling ts = false := by
  simp [atMark, marks?_eq_none h]

end Ahead

section Syntax

/-- Double colons. -/
def colons (joint : Bool) : List Token :=
  [.mark ':' true, .mark ':' joint]

/-- A comma or a closing bracket comes next, as after an argument. -/
def ClosesArgument (rest : List Token) : Prop :=
  firstMark? rest = some ',' ∨ firstMark? rest = some '>'

/-- The tokens are one argument of a segment, which is written back as `item`: whatever depth they
need, they are read up to the comma or the bracket after them. -/
structure IsArgument (ts : List Token) (item : Listed) : Prop where
  ne_nil : ts ≠ []
  not_closing : firstMark? ts ≠ some '>'
  reads : ∀ depth, 8 * (Token.weightAll ts + 1) ≤ depth →
    ∀ rest, ClosesArgument rest → (argument (Phrases.ofDepth depth)).Reads (ts ++ rest) item rest

/-- The tokens between the brackets of a segment; a comma may stand at the end. -/
inductive IsArguments : List Token → List Listed → Prop
  | nil : IsArguments [] []
  | last {ts item} : IsArgument ts item → IsArguments ts [item]
  | cons {ts item ts' items} (joint : Bool) : IsArgument ts item → IsArguments ts' items →
      IsArguments (ts ++ .mark ',' joint :: ts')
        ({ item with comma := [.mark ',' joint] } :: items)

/-- A word that can be a segment of a path. -/
def isSegmentWord (raw : Bool) (name : String) : Bool :=
  isName raw name || (!raw && pathWords.contains name)

/-- The tokens are one segment, with the tokens as which it is written back: arguments that are
lifetimes come first. -/
inductive IsSegment : List Token → List Token → Prop
  | word {raw name} : isSegmentWord raw name = true → IsSegment [.word raw name] [.word raw name]
  | arguments {raw name ts items} (joint opening closing : Bool) :
      isName raw name = true ∨ (raw = false ∧ name = "Self") → IsArguments ts items →
      IsSegment (.word raw name :: colons joint ++ .mark '<' opening :: ts ++ [.mark '>' closing])
        (.word raw name :: colons joint ++ .mark '<' opening :: Listed.lifetimesFirst items ++
          [.mark '>' closing])

/-- The segments of a path after its first one. -/
inductive IsMore : List Token → List Token → Prop
  | nil : IsMore [] []
  | cons {ts ws ts' ws'} (joint : Bool) : IsSegment ts ws → IsMore ts' ws' →
      IsMore (colons joint ++ ts ++ ts') (colons joint ++ ws ++ ws')

/-- A path, which may start with double colons. -/
inductive IsPath : List Token → List Token → Prop
  | plain {ts ws ts' ws'} : IsSegment ts ws → IsMore ts' ws' → IsPath (ts ++ ts') (ws ++ ws')
  | rooted {ts ws ts' ws'} (joint : Bool) : IsSegment ts ws → IsMore ts' ws' →
      IsPath (colons joint ++ ts ++ ts') (colons joint ++ ws ++ ws')

end Syntax

section Arguments

open Scan

variable {ts rest : List Token}

theorem firstMark?_append (h : ts ≠ []) (rest : List Token) :
    firstMark? (ts ++ rest) = firstMark? ts := by
  cases ts with
  | nil => exact absurd rfl h
  | cons t ts => cases t <;> rfl

theorem IsArgument.not_atMark {item : Listed} (h : IsArgument ts item) (rest : List Token) :
    atMark ">" (ts ++ rest) = false := by
  refine atMark_eq_false fun c hc => ?_
  rw [firstMark?_append h.ne_nil] at hc
  rintro ⟨⟩
  exact h.not_closing hc

/-- Arguments are read up to the closing bracket; each of them takes a step, and a last step sees
the bracket. -/
theorem reads_arguments {items : List Listed} (h : IsArguments ts items) {depth fuel : Nat}
    (hdepth : 8 * (Token.weightAll ts + 1) ≤ depth) (hfuel : ts.length < fuel) (closing : Bool)
    (read : List Listed) :
    (iterate (fun read => do
      if ← sees (atMark ">") then return .done read
      else
        let found ← argument (Phrases.ofDepth depth)
        if ← sees (atMark ">") then return .done (read ++ [found])
        else return .yield (read ++ [{ found with comma := ← mark "," }])) fuel read).Reads
      (ts ++ .mark '>' closing :: rest) (read ++ items) (.mark '>' closing :: rest) := by
  have hclosed : ∀ rest, atMark ">" (.mark '>' closing :: rest) = true := fun _ => rfl
  induction h generalizing fuel read with
  | nil =>
      obtain ⟨fuel, rfl⟩ : ∃ n, fuel = n + 1 := ⟨fuel - 1, by omega⟩
      rw [List.append_nil]
      refine Reads.iterate_done ?_ fuel
      exact Reads.of_seen (hclosed _) (reads_pure _)
  | @last ts item harg =>
      obtain ⟨fuel, rfl⟩ : ∃ n, fuel = n + 1 := ⟨fuel - 1, by omega⟩
      refine Reads.iterate_done (Reads.of_not_seen (harg.not_atMark _) ?_) fuel
      exact (harg.reads depth hdepth _ (.inr rfl)).bind (Reads.of_seen (hclosed _) (reads_pure _))
  | @cons ts item ts' items joint harg _ ih =>
      obtain ⟨fuel, rfl⟩ : ∃ n, fuel = n + 1 := ⟨fuel - 1, by omega⟩
      simp only [Token.weightAll_append, Token.weightAll, Token.weight] at hdepth
      simp only [List.length_append, List.length_cons] at hfuel
      rw [List.append_assoc, List.cons_append, List.append_cons read]
      refine Reads.iterate_yield (Reads.of_not_seen (harg.not_atMark _) ?_)
        (ih (by omega) (by omega) _)
      refine (harg.reads depth (by omega) _ (.inl rfl)).bind (Reads.of_not_seen rfl ?_)
      exact (reads_mark "," rfl).bind (reads_pure _)

theorem reads_argumentList {items : List Listed} (h : IsArguments ts items) {depth : Nat}
    (hdepth : 8 * (Token.weightAll ts + 1) ≤ depth) (opening closing : Bool) :
    (argumentList (Phrases.ofDepth depth)).Reads
      (.mark '<' opening :: (ts ++ .mark '>' closing :: rest))
      (.mark '<' opening :: Listed.lifetimesFirst items ++ [.mark '>' closing], items.isEmpty)
      rest := by
  refine (reads_mark "<" rfl).bind ?_
  refine (Reads.repeated_of_iterate (reads_arguments h hdepth ?_ closing [])).bind ?_
  · simp only [List.length_append, List.length_cons]
    omega
  · exact (reads_mark ">" rfl).bind (reads_pure _)

end Arguments

namespace Path

open Scan

variable {ts ws rest : List Token} {raw : Bool} {name : String}

theorem reads_front (h : isName raw name = true ∨ (raw = false ∧ name = "Self")) :
    (nameOr ["Self"]).Reads (.word raw name :: rest) [.word raw name] rest := by
  obtain h | ⟨rfl, rfl⟩ := h
  · cases hself : atWords ["Self"] (.word raw name :: rest)
    · exact Reads.of_not_seen hself (reads_name h)
    · exact Reads.of_seen hself reads_anyWord
  · exact Reads.of_seen rfl reads_anyWord

theorem takesArguments_of_isSegmentWord (h : isSegmentWord raw name = true)
    (hword : atWords ["super", "self", "crate", "try"] (.word raw name :: rest) = false) :
    isName raw name = true ∨ (raw = false ∧ name = "Self") := by
  cases raw <;> simp_all [isSegmentWord, pathWords, atWords, atWord, isName]

theorem not_atWords_of_takesArguments (h : isName raw name = true ∨ (raw = false ∧ name = "Self"))
    (rest : List Token) :
    atWords ["super", "self", "crate", "try"] (.word raw name :: rest) = false := by
  obtain h | ⟨rfl, rfl⟩ := h
  · cases raw with
    | true => rfl
    | false =>
        simp only [isName, Bool.false_or, Bool.not_eq_true', List.contains_eq_mem,
          decide_eq_false_iff_not] at h
        simp only [atWords, atWord, List.any_eq_false, beq_iff_eq]
        have hkeywords : ∀ word ∈ ["super", "self", "crate", "try"], word ∈ keywords := by decide
        rintro word hword rfl
        exact h (hkeywords _ hword)
  · rfl

/-- A segment is read up to what cannot be its arguments. -/
theorem reads_segment (h : IsSegment ts ws) {depth : Nat}
    (hdepth : 8 * Token.weightAll ts ≤ depth) (hopen : atMark "<" rest = false)
    (hcolons : (atMark "::" rest && third (atMark "<") rest) = false) (inExpression : Bool) :
    ∃ p : Path, p.tokens = ws ∧
      (segment (Phrases.ofDepth depth) inExpression).Reads (ts ++ rest) p rest := by
  cases h with
  | @word raw name hword =>
      refine ⟨⟨[.word raw name], [], true, true, true⟩, rfl, ?_⟩
      rw [List.singleton_append]
      cases hfirst : atWords ["super", "self", "crate", "try"] (.word raw name :: rest)
      · refine Reads.of_not_seen hfirst ?_
        refine (reads_front (takesArguments_of_isSegmentWord hword hfirst)).bind
          (reads_rest.bind ?_)
        simp only [hopen, hcolons, Bool.and_false, Bool.false_and, Bool.false_or,
          Bool.false_eq_true, if_false]
        exact reads_pure _
      · exact Reads.of_seen hfirst (reads_anyWord.bind (reads_pure _))
  | @arguments raw name ts items joint opening closing hname hargs =>
      refine ⟨⟨[.word raw name], colons joint ++
        (.mark '<' opening :: Listed.lifetimesFirst items ++ [.mark '>' closing]),
        items.isEmpty, false, true⟩, by simp [tokens], ?_⟩
      simp only [Token.weightAll_append, Token.weightAll, Token.weight] at hdepth
      simp only [List.cons_append, List.append_assoc, List.nil_append]
      refine Reads.of_not_seen (not_atWords_of_takesArguments hname _) ?_
      refine (reads_front hname).bind (reads_rest.bind ?_)
      rw [if_pos (by simp [colons, third, atMark, marks?])]
      refine (reads_optionalMark "::" rfl).bind ?_
      exact (reads_argumentList hargs (by omega) opening closing).bind (reads_pure _)

theorem exists_word_of_isSegment (h : IsSegment ts ws) :
    ∃ raw name more, ts = .word raw name :: more ∧ isSegmentWord raw name = true := by
  cases h with
  | word hword => exact ⟨_, _, _, rfl, hword⟩
  | arguments _ _ _ hname _ =>
      refine ⟨_, _, _, rfl, ?_⟩
      obtain h | ⟨rfl, rfl⟩ := hname
      · simp [isSegmentWord, h]
      · rfl

/-- What follows a segment of a path is not its arguments. -/
theorem not_arguments_of_isMore (h : IsMore ts ws) (hopen : atMark "<" rest = false)
    (hcolons : atMark "::" rest = false) :
    atMark "<" (ts ++ rest) = false ∧
      (atMark "::" (ts ++ rest) && third (atMark "<") (ts ++ rest)) = false := by
  cases h with
  | nil => exact ⟨hopen, by simp [hcolons]⟩
  | cons joint hsegment _ =>
      obtain ⟨raw, name, more, rfl, -⟩ := exists_word_of_isSegment hsegment
      exact ⟨rfl, by simp [colons, third, atMark, marks?]⟩

/-- Segments are read while `goesOn` holds, which it must before each of them and not behind the
last one. -/
theorem reads_segments (h : IsMore ts ws) {depth fuel : Nat}
    (hdepth : 8 * Token.weightAll ts ≤ depth) (hfuel : ts.length < fuel)
    (hopen : atMark "<" rest = false) (hcolons : atMark "::" rest = false)
    (goesOn : List Token → Bool)
    (hgoes : ∀ joint raw name more, goesOn (colons joint ++ .word raw name :: more) = true)
    (hends : goesOn rest = false) (inExpression : Bool) (p : Path) :
    ∃ q : Path, q.tokens = p.tokens ++ ws ∧
      (iterate (fun p => do
        if ← sees goesOn then
          let colons ← mark "::"
          return .yield (p.append colons (← segment (Phrases.ofDepth depth) inExpression))
        else return .done p) fuel p).Reads (ts ++ rest) q rest := by
  -- A step reads double colons and a segment, so the tokens that are left always bound the steps
  -- that are left.
  induction h generalizing fuel p with
  | nil =>
      obtain ⟨fuel, rfl⟩ : ∃ n, fuel = n + 1 := ⟨fuel - 1, by omega⟩
      refine ⟨p, by simp, Reads.iterate_done ?_ fuel⟩
      exact Reads.of_not_seen hends (reads_pure _)
  | @cons ts ws ts' ws' joint hsegment hmore ih =>
      obtain ⟨fuel, rfl⟩ : ∃ n, fuel = n + 1 := ⟨fuel - 1, by omega⟩
      simp only [Token.weightAll_append, List.length_append] at hdepth hfuel
      obtain ⟨hnext, hnext'⟩ := not_arguments_of_isMore hmore hopen hcolons
      have hfirst : 8 * Token.weightAll ts ≤ depth := by omega
      have hlater : 8 * Token.weightAll ts' ≤ depth := by omega
      have hshort : ts'.length < fuel := by
        simp only [colons, List.length_cons] at hfuel
        omega
      obtain ⟨s, hs, hreads⟩ := reads_segment hsegment hfirst hnext hnext' inExpression
      obtain ⟨q, hq, hreads'⟩ := ih hlater hshort (p.append (colons joint) s)
      refine ⟨q, ?_, Reads.iterate_yield ?_ hreads'⟩
      · rw [hq, ← hs]
        simp [append, tokens]
      · obtain ⟨raw, name, more, rfl, -⟩ := exists_word_of_isSegment hsegment
        rw [List.append_assoc, List.append_assoc]
        refine Reads.of_seen (hgoes ..) ?_
        exact (reads_mark "::" rfl).bind (hreads.bind (reads_pure _))

theorem reads_parse_of_root {root ts' ws' : List Token} (hsegment : IsSegment ts ws)
    (hmore : IsMore ts' ws') {depth : Nat}
    (hdepth : 8 * Token.weightAll (root ++ ts ++ ts') ≤ depth)
    (hroot : (optionalMark "::").Reads (root ++ ts ++ ts' ++ rest) root (ts ++ (ts' ++ rest)))
    (hopen : atMark "<" rest = false) (hcolons : atMark "::" rest = false) (inExpression : Bool) :
    ∃ p : Path, p.tokens = root ++ ws ++ ws' ∧
      (parse (Phrases.ofDepth depth) inExpression).Reads (root ++ ts ++ ts' ++ rest) p rest := by
  simp only [Token.weightAll_append] at hdepth
  have hfirst : 8 * Token.weightAll ts ≤ depth := by omega
  have hlater : 8 * Token.weightAll ts' ≤ depth := by omega
  have hshort : ts'.length < (ts' ++ rest).length + 1 := by
    rw [List.length_append]
    omega
  obtain ⟨hnext, hnext'⟩ := not_arguments_of_isMore hmore hopen hcolons
  obtain ⟨s, rfl, hreads⟩ := reads_segment hsegment hfirst hnext hnext' inExpression
  obtain ⟨q, hq, hreads'⟩ := reads_segments hmore hlater hshort hopen hcolons
    (fun ts => atMark "::" ts && !third (atGroup .parenthesis) ts) (fun _ _ _ _ => rfl)
    (by simp [hcolons]) inExpression ⟨root ++ s.front, s.arguments, s.bare, s.plain, root.isEmpty⟩
  refine ⟨q, ?_, hroot.bind (hreads.bind (Reads.repeated_of_iterate hreads'))⟩
  rw [hq]
  simp [tokens]

/-- A path is read up to what cannot continue it. -/
theorem reads_parse (h : IsPath ts ws) {depth : Nat} (hdepth : 8 * Token.weightAll ts ≤ depth)
    (hopen : atMark "<" rest = false) (hcolons : atMark "::" rest = false) (inExpression : Bool) :
    ∃ p : Path,
      p.tokens = ws ∧ (parse (Phrases.ofDepth depth) inExpression).Reads (ts ++ rest) p rest := by
  cases h with
  | @plain ts ws ts' ws' hsegment hmore =>
      obtain ⟨raw, name, more, rfl, -⟩ := exists_word_of_isSegment hsegment
      have hroot : (optionalMark "::").Reads ([] ++ (.word raw name :: more) ++ ts' ++ rest) []
          (.word raw name :: more ++ (ts' ++ rest)) := by
        rw [List.nil_append, List.append_assoc]
        exact reads_whenSeen_of_not rfl _
      exact reads_parse_of_root hsegment hmore hdepth hroot hopen hcolons inExpression
  | rooted joint hsegment hmore =>
      refine reads_parse_of_root hsegment hmore hdepth ?_ hopen hcolons inExpression
      rw [List.append_assoc, List.append_assoc]
      exact reads_optionalMark "::" rfl

end Path

/-- The tokens start as a path does. -/
inductive StartsPath : List Token → Prop
  | word {raw name} (ts : List Token) : isSegmentWord raw name = true →
    StartsPath (.word raw name :: ts)
  | colons (joint : Bool) (ts : List Token) : StartsPath (colons joint ++ ts)

namespace StartsPath

variable {ts ws : List Token}

theorem of_isPath (h : IsPath ts ws) (rest : List Token) : StartsPath (ts ++ rest) := by
  cases h with
  | plain hsegment _ =>
      obtain ⟨raw, name, more, rfl, hname⟩ := Path.exists_word_of_isSegment hsegment
      exact .word _ hname
  | rooted joint _ _ =>
      rw [List.append_assoc, List.append_assoc]
      exact .colons joint _

theorem not_atWord (h : StartsPath ts) (text : String)
    (htext : text ∈ keywords ∧ text ∉ pathWords) : atWord text ts = false := by
  cases h with
  | @word raw name _ hname =>
      cases raw with
      | true => rfl
      | false =>
          simp only [atWord, beq_eq_false_iff_ne]
          rintro rfl
          simp [isSegmentWord, isName, htext] at hname
  | colons => rfl

theorem not_atWords (h : StartsPath ts) (texts : List String)
    (htexts : ∀ text ∈ texts, text ∈ keywords ∧ text ∉ pathWords) : atWords texts ts = false := by
  simp only [atWords, List.any_eq_false, Bool.not_eq_true]
  exact fun text htext => h.not_atWord text (htexts text htext)

theorem not_atMark (h : StartsPath ts) (spelling : String)
    (hs : spelling.toList.head? ≠ some ':') : atMark spelling ts = false := by
  refine atMark_eq_false ?_
  cases h with
  | word => simp [firstMark?]
  | colons => simpa [firstMark?, Declaration.colons] using hs

theorem not_atLiteral (h : StartsPath ts) : atLiteral ts = false := by
  have htrue := h.not_atWord "true" (by decide)
  have hfalse := h.not_atWord "false" (by decide)
  cases h with
  | @word raw name _ hname =>
      cases raw with
      | true => rfl
      | false =>
          simp only [atWord, beq_eq_false_iff_ne] at htrue hfalse
          unfold atLiteral
          split <;> simp_all
  | colons => rfl

theorem not_atGroup (h : StartsPath ts) (d : Delimiter) : atGroup d ts = false := by
  cases h <;> rfl

theorem not_atLifetime (h : StartsPath ts) : atLifetime ts = false := by
  cases h <;> rfl

theorem atType (h : StartsPath ts) :
    (atName ts || atWords pathWords ts || atMark "::" ts || atMark "<" ts) = true := by
  cases h with
  | @word raw name _ hname =>
      cases raw with
      | true => rfl
      | false =>
          have hname : name ∉ keywords ∨ name ∈ pathWords := by
            simpa [isSegmentWord, isName] using hname
          obtain h | h := hname <;> simp [atName, isName, atWords, atWord, h]
  | colons => rfl

theorem atPath (h : StartsPath ts) : atPath ts = true := by
  have htype := h.atType
  simp only [Bool.or_eq_true] at htype
  obtain ((h | h) | h) | h := htype <;> simp [Declaration.atPath, atMarks, h]

end StartsPath

end Declaration

end Metrology
