import Metrology.Proofs.PathReading

namespace Metrology

namespace Declaration

namespace Scan

variable {α : Type} {ts rest : List Token}

theorem Reads.within {content : Scan α} {a : α} {inner : List Token}
    (h : content.Reads inner a []) (d : Delimiter) (rest : List Token) :
    (within d content).Reads (.group d inner :: rest) a rest := by
  intro stray
  have hcontent := h stray
  unfold Scan.within
  simp [hcontent]
  rfl

theorem reads_lifetime {raw : Bool} {name : String} :
    lifetime.Reads (.lifetime raw name :: ts) [.lifetime raw name] ts :=
  reads_rest.bind ((reads_advance ts).bind (reads_pure _))

end Scan

/-- The tokens are one literal: also a truth value, or a number with a minus sign. -/
inductive IsLiteral : List Token → Prop
  | literal (kind : LiteralKind) (source : String) : IsLiteral [.literal kind source]
  | truth {name : String} : name = "true" ∨ name = "false" → IsLiteral [.word false name]
  | negative (joint : Bool) {kind : LiteralKind} (source : String) : kind.isNumber = true →
      IsLiteral [.mark '-' joint, .literal kind source]

namespace IsLiteral

open Scan

variable {ts : List Token}

theorem atLiteral (h : IsLiteral ts) (rest : List Token) : atLiteral (ts ++ rest) = true := by
  cases h with
  | literal => rfl
  | truth h => obtain rfl | rfl := h <;> rfl
  | negative _ _ h => exact h

theorem reads (h : IsLiteral ts) (rest : List Token) :
    Scan.literal.Reads (ts ++ rest) ts rest := by
  have hat := h.atLiteral rest
  refine reads_rest.bind ?_
  cases h
  all_goals
    simp only [List.cons_append, List.nil_append] at hat ⊢
    simp only [hat, Bool.not_true, Bool.false_eq_true, if_false]
    exact (reads_advance rest).bind (reads_pure _)

end IsLiteral

/-- What may follow a type: nothing, a comma, a closing bracket, or the trait of a qualified
path. -/
inductive EndsType : List Token → Prop
  | nothing : EndsType []
  | closes {rest} : ClosesArgument rest → EndsType rest
  | trait (rest) : EndsType (.word false "as" :: rest)

namespace EndsType

variable {rest : List Token}

theorem not_atMark (h : EndsType rest) (spelling : String)
    (hcomma : spelling.toList.head? ≠ some ',') (hclosing : spelling.toList.head? ≠ some '>') :
    atMark spelling rest = false := by
  refine atMark_eq_false fun c hc => ?_
  cases h with
  | nothing => cases hc
  | trait => cases hc
  | closes h =>
      obtain h | h := h
      · obtain rfl : ',' = c := by simpa [h] using hc
        exact hcomma
      · obtain rfl : '>' = c := by simpa [h] using hc
        exact hclosing

theorem not_atCall (h : EndsType rest) : atCall rest = false := by
  have hgroup : atGroup .parenthesis rest = false := by
    cases h with
    | nothing => rfl
    | trait => rfl
    | closes h =>
        match rest, h with
        | .mark .. :: _, _ => rfl
  simp [atCall, hgroup, h.not_atMark "::" (by decide) (by decide)]

end EndsType

/-- The tokens start as a path does, or with a bracket or parentheses. -/
inductive StartsType : List Token → Prop
  | path {ts} : StartsPath ts → StartsType ts
  | bracket (joint ts) : StartsType (.mark '<' joint :: ts)
  | parentheses (inner ts) : StartsType (.group .parenthesis inner :: ts)

namespace StartsType

variable {ts : List Token}

theorem not_atMark (h : StartsType ts) (spelling : String)
    (hcolon : spelling.toList.head? ≠ some ':') (hbracket : spelling.toList.head? ≠ some '<') :
    atMark spelling ts = false := by
  cases h with
  | path h => exact h.not_atMark spelling hcolon
  | bracket => exact atMark_eq_false (by simpa [firstMark?] using hbracket)
  | parentheses => exact atMark_eq_false (by simp [firstMark?])

theorem not_atLifetime (h : StartsType ts) : atLifetime ts = false := by
  cases h with
  | path h => exact h.not_atLifetime
  | bracket => rfl
  | parentheses => rfl

theorem not_atConstant (h : StartsType ts) : (atLiteral ts || atGroup .brace ts) = false := by
  cases h with
  | path h => simp [h.not_atLiteral, h.not_atGroup]
  | bracket => rfl
  | parentheses => rfl

theorem ne_nil (h : StartsType ts) : ts ≠ [] := by
  rintro rfl
  cases h with
  | path h => cases h

theorem firstMark?_ne (h : StartsType ts) : firstMark? ts ≠ some '>' := by
  cases h with
  | path h => cases h <;> simp [firstMark?, colons]
  | bracket => simp [firstMark?]
  | parentheses => simp [firstMark?]

end StartsType

/-- The tokens are one type, which is written back as `ws`: whatever depth they need, they are
read up to what may follow a type. -/
structure IsType (ts ws : List Token) : Prop where
  starts : ∀ rest, StartsType (ts ++ rest)
  reads : ∀ depth, 8 * (Token.weightAll ts + 1) ≤ depth → ∀ rest, EndsType rest →
    ∃ shape, ((Phrases.ofDepth depth).type true).Reads (ts ++ rest) ⟨ws, shape⟩ rest

/-- Types with commas between them; a comma may stand at the end. -/
inductive IsTypes : List Token → List Token → Prop
  | nil : IsTypes [] []
  | last {ts ws} : IsType ts ws → IsTypes ts ws
  | cons {ts ws ts' ws'} (joint : Bool) : IsType ts ws → IsTypes ts' ws' →
      IsTypes (ts ++ .mark ',' joint :: ts') (ws ++ .mark ',' joint :: ws')

/-- The trait of a qualified path, if it has one. -/
inductive IsTrait : List Token → List Token → Prop
  | none : IsTrait [] []
  | path {ts ws} : IsPath ts ws → IsTrait (.word false "as" :: ts) (.word false "as" :: ws)

section Types

open Scan

variable {ts ws rest : List Token}

theorem IsType.starts_self (h : IsType ts ws) : StartsType ts := by
  have hstart := h.starts []
  rwa [List.append_nil] at hstart

/-- One level of depth is spent on the type itself. -/
theorem IsType.of_parse (starts : ∀ rest, StartsType (ts ++ rest))
    (h : ∀ depth, 8 * Token.weightAll ts ≤ depth → ∀ rest, EndsType rest →
      ∃ shape, (TypeExpression.parse (Phrases.ofDepth depth) true).Reads (ts ++ rest) ⟨ws, shape⟩
        rest) : IsType ts ws where
  starts := starts
  reads depth hdepth rest hrest := by
    obtain ⟨depth, rfl⟩ : ∃ n, depth = n + 1 := ⟨depth - 1, by omega⟩
    exact h depth (by omega) rest hrest

theorem IsType.reads_typeTokens (h : IsType ts ws) {depth : Nat}
    (hdepth : 8 * (Token.weightAll ts + 1) ≤ depth) (hrest : EndsType rest) :
    ((Phrases.ofDepth depth).typeTokens true).Reads (ts ++ rest) ws rest := by
  obtain ⟨shape, hreads⟩ := h.reads depth hdepth rest hrest
  exact hreads.bind (reads_pure _)

/-- Types are read up to the end of their group; each of them takes a step, and a last step sees
the end. -/
theorem reads_types (h : IsTypes ts ws) {depth fuel : Nat}
    (hdepth : 8 * (Token.weightAll ts + 1) ≤ depth) (hfuel : ts.length < fuel)
    (read : List Token) :
    (iterate (fun read => do
      if ← sees List.isEmpty then return .done read
      else
        let read := read ++ (← (Phrases.ofDepth depth).typeTokens true)
        if ← sees List.isEmpty then return .done read
        else return .yield (read ++ (← mark ","))) fuel read).Reads ts (read ++ ws) [] := by
  induction h generalizing fuel read with
  | nil =>
      obtain ⟨fuel, rfl⟩ : ∃ n, fuel = n + 1 := ⟨fuel - 1, by omega⟩
      rw [List.append_nil]
      exact Reads.iterate_done (Reads.of_seen rfl (reads_pure _)) fuel
  | @last ts ws htype =>
      obtain ⟨fuel, rfl⟩ : ∃ n, fuel = n + 1 := ⟨fuel - 1, by omega⟩
      have hreads := htype.reads_typeTokens hdepth .nothing
      rw [List.append_nil] at hreads
      refine Reads.iterate_done (Reads.of_not_seen ?_ ?_) fuel
      · simpa using htype.starts_self.ne_nil
      · exact hreads.bind (Reads.of_seen rfl (reads_pure _))
  | @cons ts ws ts' ws' joint htype _ ih =>
      obtain ⟨fuel, rfl⟩ : ∃ n, fuel = n + 1 := ⟨fuel - 1, by omega⟩
      simp only [Token.weightAll_append, Token.weightAll, Token.weight] at hdepth
      simp only [List.length_append, List.length_cons] at hfuel
      have hfirst : 8 * (Token.weightAll ts + 1) ≤ depth := by omega
      have hreads :=
        htype.reads_typeTokens hfirst
          (.closes (.inl (show firstMark? (.mark ',' joint :: ts') = _ from rfl)))
      rw [List.append_cons ws, ← List.append_assoc read]
      refine Reads.iterate_yield (Reads.of_not_seen (by simp) ?_) (ih (by omega) (by omega) _)
      refine hreads.bind (Reads.of_not_seen rfl ?_)
      rw [← List.append_assoc read]
      exact (reads_mark "," rfl).bind (reads_pure _)

/-- A path as a type is over where the path is: no arguments in parentheses follow. -/
theorem TypeExpression.reads_path {g : Phrases} {qualified : Bool} {p : Path}
    (hqualified : atMark "<" ts = qualified)
    (h : (if qualified then Path.qualified g false else Path.parse g false).Reads ts p rest)
    (hrest : EndsType rest) : (path g).Reads ts (p, qualified) rest := by
  refine (reads_sees _).bind ?_
  rw [hqualified]
  cases qualified
  all_goals
    simp only [Bool.false_eq_true, if_false, if_true] at h ⊢
    refine h.bind ((Reads.repeated_done ?_).bind (reads_pure _))
    refine (reads_sees _).bind ?_
    rw [hrest.not_atCall, Bool.and_false]
    exact reads_pure _

/-- A path is a type, with its own arguments. -/
theorem isType_of_isPath (h : IsPath ts ws) : IsType ts ws := by
  refine .of_parse (fun rest => .path (StartsPath.of_isPath h rest)) ?_
  intro depth hdepth rest hrest
  have hstart := StartsPath.of_isPath h rest
  obtain ⟨p, rfl, hparse⟩ :=
    Path.reads_parse h hdepth (hrest.not_atMark "<" (by decide) (by decide))
      (hrest.not_atMark "::" (by decide) (by decide)) false
  have hreads := TypeExpression.reads_path (hstart.not_atMark "<" (by decide)) hparse hrest
  refine ⟨if p.single then .segment else .path, ?_⟩
  refine (reads_whenSeen_of_not (hstart.not_atWord "for" (by decide)) _).bind (reads_rest.bind ?_)
  simp only [List.isEmpty_nil, Bool.not_true, Bool.false_and, hstart.not_atGroup,
    hstart.not_atWords ["fn", "unsafe", "extern"] (by decide), hstart.atType, Bool.false_eq_true,
    if_false, if_true]
  refine hreads.bind ((reads_sees _).bind ?_)
  have hbang : atBang rest = false := by
    simp [atBang, hrest.not_atMark "!" (by decide) (by decide)]
  rw [hbang, Bool.and_false]
  refine (reads_sees _).bind ?_
  rw [hrest.not_atMark "+" (by decide) (by decide), Bool.and_false]
  exact reads_pure _

/-- Parentheses with nothing in them are a type. -/
theorem isType_unit : IsType [.group .parenthesis []] [.group .parenthesis []] := by
  refine .of_parse (fun rest => .parentheses [] rest) ?_
  intro depth _ rest _
  have hinner : (TypeExpression.parentheses (Phrases.ofDepth depth)).Reads
      (.group .parenthesis [] :: rest) (.tuple []) rest := by
    refine Reads.within (reads_rest.bind ?_) .parenthesis rest
    exact reads_pure _
  refine ⟨.other, (reads_whenSeen_of_not rfl _).bind (reads_rest.bind ?_)⟩
  exact hinner.bind (reads_pure _)

/-- Types in parentheses are a type, if there is a comma among them. -/
theorem isType_tuple {ts' ws' : List Token} (joint : Bool) (h : IsType ts ws)
    (h' : IsTypes ts' ws') :
    IsType [.group .parenthesis (ts ++ .mark ',' joint :: ts')]
      [.group .parenthesis (ws ++ .mark ',' joint :: ws')] := by
  refine .of_parse (fun rest => .parentheses _ rest) ?_
  intro depth hdepth rest _
  simp only [Token.weightAll_append, Token.weightAll, Token.weight] at hdepth
  obtain ⟨shape, hfirst⟩ :=
    h.reads depth (by omega) (.mark ',' joint :: ts') (.closes (.inl rfl))
  have hlater : 8 * (Token.weightAll ts' + 1) ≤ depth := by omega
  have hmore := reads_types h' hlater (Nat.lt_succ_self ts'.length) []
  have hstart := h.starts (.mark ',' joint :: ts')
  have hinner : (TypeExpression.parentheses (Phrases.ofDepth depth)).Reads
      (.group .parenthesis (ts ++ .mark ',' joint :: ts') :: rest)
      (.tuple (ws ++ .mark ',' joint :: ws')) rest := by
    refine Reads.within (reads_rest.bind ?_) .parenthesis rest
    simp only [hstart.not_atLifetime, hstart.not_atMark "?" (by decide) (by decide),
      Bool.false_eq_true, if_false, List.isEmpty_iff, hstart.ne_nil]
    refine hfirst.bind (Reads.of_seen rfl ?_)
    refine (reads_mark "," rfl).bind ((Reads.repeated_of_iterate hmore).bind ?_)
    rw [List.append_cons ws]
    exact reads_pure _
  refine ⟨.other, (reads_whenSeen_of_not rfl _).bind (reads_rest.bind ?_)⟩
  exact hinner.bind (reads_pure _)

theorem IsTrait.endsType (h : IsTrait ts ws) (closing : Bool) (rest : List Token) :
    EndsType (ts ++ .mark '>' closing :: rest) := by
  cases h with
  | none => exact .closes (.inr rfl)
  | path => exact .trait _

theorem IsTrait.reads (h : IsTrait ts ws) {depth : Nat} (hdepth : 8 * Token.weightAll ts ≤ depth)
    (closing : Bool) :
    (whenSeen (atWord "as") do
      let start ← word "as"
      return start ++ (← Path.parse (Phrases.ofDepth depth) false).tokens).Reads
      (ts ++ .mark '>' closing :: rest) ws (.mark '>' closing :: rest) := by
  cases h with
  | none => exact reads_whenSeen_of_not rfl _
  | @path ts ws hpath =>
      simp only [Token.weightAll, Token.weight] at hdepth
      have hinner : 8 * Token.weightAll ts ≤ depth := by omega
      have hcolons : atMark "::" (.mark '>' closing :: rest) = false :=
        atMark_eq_false (by simp [firstMark?])
      obtain ⟨p, rfl, hreads⟩ := Path.reads_parse hpath hinner rfl hcolons false
      have hword : (word "as").Reads (.word false "as" :: (ts ++ .mark '>' closing :: rest))
          [.word false "as"] (ts ++ .mark '>' closing :: rest) :=
        reads_rest.bind ((reads_advance _).bind (reads_pure _))
      exact Reads.of_seen rfl (hword.bind (hreads.bind (reads_pure _)))

section Qualified

variable {ts₁ ws₁ ts₂ ws₂ ts₃ ws₃ : List Token}

theorem Path.reads_qualified (opening closing joint : Bool) (htype : IsType ts ws)
    (htrait : IsTrait ts₁ ws₁) (hsegment : IsSegment ts₂ ws₂) (hmore : IsMore ts₃ ws₃)
    {depth : Nat} (hdepth : 8 * Token.weightAll (.mark '<' opening :: (ts ++ (ts₁ ++
      .mark '>' closing :: (colons joint ++ (ts₂ ++ ts₃))))) ≤ depth) (hrest : EndsType rest) :
    ∃ p : Path,
      p.tokens = .mark '<' opening ::
        (ws ++ (ws₁ ++ .mark '>' closing :: (colons joint ++ (ws₂ ++ ws₃)))) ∧
      (qualified (Phrases.ofDepth depth) false).Reads
        (.mark '<' opening ::
          (ts ++ (ts₁ ++ .mark '>' closing :: (colons joint ++ (ts₂ ++ (ts₃ ++ rest))))))
        p rest := by
  simp only [Token.weightAll_append, Token.weightAll, Token.weight] at hdepth
  have hopen := hrest.not_atMark "<" (by decide) (by decide)
  have hcolons := hrest.not_atMark "::" (by decide) (by decide)
  have htypeDepth : 8 * (Token.weightAll ts + 1) ≤ depth := by omega
  have htraitDepth : 8 * Token.weightAll ts₁ ≤ depth := by omega
  have hsegmentDepth : 8 * Token.weightAll ts₂ ≤ depth := by omega
  have hmoreDepth : 8 * Token.weightAll ts₃ ≤ depth := by omega
  have hshort : ts₃.length < (ts₃ ++ rest).length + 1 := by
    rw [List.length_append]
    omega
  obtain ⟨hnext, hnext'⟩ := not_arguments_of_isMore hmore hopen hcolons
  obtain ⟨s, rfl, hreads⟩ := reads_segment hsegment hsegmentDepth hnext hnext' false
  obtain ⟨q, hq, hreads'⟩ := reads_segments hmore hmoreDepth hshort hopen hcolons (atMark "::")
    (fun _ _ _ _ => rfl) hcolons false
    (append ⟨[.mark '<' opening] ++ ws ++ ws₁ ++ [.mark '>' closing], [], true, false, false⟩
      (colons joint) s)
  refine ⟨q, ?_, ?_⟩
  · rw [hq]
    simp [append, tokens]
  · have hleft : ∀ more, (mark "<").Reads (.mark '<' opening :: more) [.mark '<' opening] more :=
      fun _ => reads_mark "<" rfl
    have hright : ∀ more, (mark ">").Reads (.mark '>' closing :: more) [.mark '>' closing] more :=
      fun _ => reads_mark ">" rfl
    have hdouble : ∀ more, (mark "::").Reads (colons joint ++ more) (colons joint) more :=
      fun _ => reads_mark "::" rfl
    refine (hleft _).bind
      ((htype.reads_typeTokens htypeDepth (htrait.endsType closing _)).bind ?_)
    refine (htrait.reads htraitDepth closing).bind
      ((hright _).bind ((hdouble _).bind (hreads.bind ?_)))
    exact Reads.repeated_of_iterate hreads'

/-- A path that starts with a type in brackets is a type. -/
theorem isType_qualified (opening closing joint : Bool) (htype : IsType ts ws)
    (htrait : IsTrait ts₁ ws₁) (hsegment : IsSegment ts₂ ws₂) (hmore : IsMore ts₃ ws₃) :
    IsType (.mark '<' opening ::
      (ts ++ (ts₁ ++ .mark '>' closing :: (colons joint ++ (ts₂ ++ ts₃)))))
      (.mark '<' opening ::
        (ws ++ (ws₁ ++ .mark '>' closing :: (colons joint ++ (ws₂ ++ ws₃))))) := by
  refine .of_parse (fun rest => .bracket opening _) ?_
  intro depth hdepth rest hrest
  obtain ⟨p, hp, hreads⟩ :=
    Path.reads_qualified opening closing joint htype htrait hsegment hmore hdepth hrest
  have hpath : (TypeExpression.path (Phrases.ofDepth depth)).Reads _ (p, true) rest :=
    TypeExpression.reads_path rfl hreads hrest
  have hat (more : List Token) : (atName (.mark '<' opening :: more) ||
      atWords pathWords (.mark '<' opening :: more) ||
      atMark "::" (.mark '<' opening :: more) || atMark "<" (.mark '<' opening :: more)) =
        true := by
    simp [show atMark "<" (.mark '<' opening :: more) = true from rfl]
  have hwords (more : List Token) :
      atWords ["fn", "unsafe", "extern"] (.mark '<' opening :: more) = false := rfl
  have hgroup (more : List Token) :
      atGroup .parenthesis (.mark '<' opening :: more) = false := rfl
  simp only [List.cons_append, List.append_assoc]
  rw [← hp]
  refine ⟨.other, (reads_whenSeen_of_not rfl _).bind (reads_rest.bind ?_)⟩
  simp only [List.isEmpty_nil, Bool.not_true, Bool.false_and, hgroup, hwords, hat,
    Bool.false_eq_true, if_false, if_true]
  exact hpath.bind (reads_pure _)

end Qualified

end Types

section Arguments

open Scan

variable {ts ws : List Token}

/-- A type is an argument. -/
theorem isArgument_of_isType (h : IsType ts ws) : IsArgument ts ⟨ws, false, []⟩ where
  ne_nil := h.starts_self.ne_nil
  not_closing := h.starts_self.firstMark?_ne
  reads depth hdepth rest hrest := by
    have hstart := h.starts rest
    have hends : EndsType rest := .closes hrest
    obtain ⟨shape, hreads⟩ := h.reads depth hdepth rest hends
    refine reads_rest.bind ?_
    simp only [hstart.not_atLifetime, hstart.not_atConstant, Bool.false_and, Bool.false_eq_true,
      if_false]
    refine hreads.bind ((reads_sees _).bind ?_)
    rw [hends.not_atMark "=" (by decide) (by decide), Bool.and_false]
    refine (reads_sees _).bind ?_
    rw [hends.not_atMark ":" (by decide) (by decide), Bool.and_false]
    exact reads_pure _

theorem isArgument_lifetime (raw : Bool) (name : String) :
    IsArgument [.lifetime raw name] ⟨[.lifetime raw name], true, []⟩ where
  ne_nil := by simp
  not_closing := by simp [firstMark?]
  reads depth _ rest hrest := by
    have hplus : second (atMark "+") (.lifetime raw name :: rest) = false :=
      (EndsType.closes hrest).not_atMark "+" (by decide) (by decide)
    refine reads_rest.bind ?_
    rw [List.singleton_append, hplus]
    exact reads_lifetime.bind (reads_pure _)

theorem isArgument_of_isLiteral (h : IsLiteral ts) : IsArgument ts ⟨ts, false, []⟩ where
  ne_nil := by cases h <;> simp
  not_closing := by cases h <;> simp [firstMark?]
  reads depth _ rest _ := by
    have hlifetime : atLifetime (ts ++ rest) = false := by cases h <;> rfl
    have hconstant : (constantArgument (Phrases.ofDepth depth)).Reads (ts ++ rest) ts rest := by
      refine reads_rest.bind ?_
      rw [if_pos (h.atLiteral rest)]
      exact h.reads rest
    refine reads_rest.bind ?_
    simp only [hlifetime, h.atLiteral rest, Bool.false_and, Bool.true_or, Bool.false_eq_true,
      if_false, if_true]
    exact hconstant.bind (reads_pure _)

end Arguments

end Declaration

end Metrology
