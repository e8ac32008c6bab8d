import Mathlib.Data.List.Induction
import Metrology.Number.Kind
import Metrology.Proofs.StoredUnit

/-!
What the entries of a stored object say. `Accepted` and `Rejected` describe the outcome by the
entries alone, and `visit_eq_ok_iff` and `visit_eq_error_iff` say that reading them one after
another comes to that: an object without an offending entry is judged as a whole, and otherwise
the first offending entry decides.
-/

namespace Metrology

open Json

namespace Json

namespace Members

/-- A key and its value, which may be broken. -/
abbrev Entry :=
  String × Option Content

/-- The entries in front of the rest of an object. -/
def ofEntries (more : Members) : List Entry → Members
  | [] => more
  | (key, content) :: entries => .entry key content (ofEntries more entries)

end Members

end Json

namespace StoredFields

open Members (Entry)

variable {α β : Type}

/-- The error of an entry behind others. A key that was there before is reported whatever its
value is. -/
inductive Offends (read : Content → Except ReadError α) (before : List Entry) :
    Entry → ReadError → Prop where
  | unknown {key : String} {content : Option Content} (hvalue : key ≠ "value")
      (hunit : key ≠ "unit") : Offends read before (key, content) (.unknownField key)
  | repeated {key : String} {content : Option Content} (hkey : key = "value" ∨ key = "unit")
      (hbefore : ∃ entry ∈ before, entry.1 = key) :
      Offends read before (key, content) (.duplicateField key)
  | broken {key : String} (hkey : key = "value" ∨ key = "unit")
      (hbefore : ∀ entry ∈ before, entry.1 ≠ key) :
      Offends read before (key, none) .malformed
  | value {c : Content} {e : ReadError} (hbefore : ∀ entry ∈ before, entry.1 ≠ "value")
      (hread : read c = .error e) : Offends read before ("value", some c) e
  | unit {c : Content} {e : ReadError} (hbefore : ∀ entry ∈ before, entry.1 ≠ "unit")
      (hread : readText c = .error e) : Offends read before ("unit", some c) e

/-- No entry offends behind those in front of it. -/
def Clean (read : Content → Except ReadError α) (entries : List Entry) : Prop :=
  ∀ before entry after, entries = before ++ entry :: after → ∀ e, ¬ Offends read before entry e

structure Accepted (read : Content → Except ReadError α) (expected : String)
    (entries : List Entry) (x : α) : Prop where
  keys : ∀ entry ∈ entries, entry.1 = "value" ∨ entry.1 = "unit"
  value : ∃ c,
    entries.filter (fun entry => entry.1 = "value") = [("value", some c)] ∧ read c = .ok x
  unit : entries.filter (fun entry => entry.1 = "unit") = [] ∨
    ∃ c, entries.filter (fun entry => entry.1 = "unit") = [("unit", some c)] ∧
      readText c = .ok expected

/-- All entries are read, and the unit is not the expected one. -/
structure Mismatched (read : Content → Except ReadError α) (expected : String)
    (entries : List Entry) (found : String) : Prop where
  clean : Clean read entries
  value : ∃ entry ∈ entries, entry.1 = "value"
  unit : ("unit", some (.text found)) ∈ entries
  ne : found ≠ expected

inductive Rejected (read : Content → Except ReadError α) (expected : String)
    (entries : List Entry) : ReadError → Prop where
  | offence {before : List Entry} {entry : Entry} {after : List Entry} {e : ReadError}
      (hentries : entries = before ++ entry :: after) (hclean : Clean read before)
      (hoffends : Offends read before entry e) : Rejected read expected entries e
  | missing (hclean : Clean read entries) (hvalue : ∀ entry ∈ entries, entry.1 ≠ "value") :
      Rejected read expected entries (.missingField "value")
  | mismatch {found : String} (hmismatch : Mismatched read expected entries found) :
      Rejected read expected entries (.unit (.mismatch expected found))

theorem Accepted.perm {read : Content → Except ReadError α} {expected : String}
    {entries entries' : List Entry} {x : α} (hperm : entries.Perm entries')
    (h : Accepted read expected entries x) : Accepted read expected entries' x := by
  obtain ⟨hkeys, ⟨c, hvalue, hread⟩, hunit⟩ := h
  have hvalues := hperm.filter fun entry => entry.1 = "value"
  have hunits := hperm.filter fun entry => entry.1 = "unit"
  refine ⟨fun entry hentry => hkeys entry (hperm.mem_iff.mpr hentry), ⟨c, ?_, hread⟩, ?_⟩
  · rw [hvalue] at hvalues
    exact List.perm_singleton.mp hvalues.symm
  · rcases hunit with hnone | ⟨c', hsome, hread'⟩
    · rw [hnone] at hunits
      exact .inl hunits.symm.eq_nil
    · rw [hsome] at hunits
      exact .inr ⟨c', List.perm_singleton.mp hunits.symm, hread'⟩

/-- What the entries of a key leave in its slot. -/
def Fills (read : Content → Except ReadError β) (key : String) (entries : List Entry) :
    Option β → Prop
  | none => ∀ entry ∈ entries, entry.1 ≠ key
  | some x => ∃ c, entries.filter (fun entry => entry.1 = key) = [(key, some c)] ∧ read c = .ok x

section Fills

variable {read : Content → Except ReadError β} {key : String} {entries : List Entry}

theorem filter_eq_nil (h : ∀ entry ∈ entries, entry.1 ≠ key) :
    entries.filter (fun entry => entry.1 = key) = [] := by
  simpa [List.filter_eq_nil_iff] using h

theorem Fills.append_other {slot : Option β} {entry : Entry} (h : Fills read key entries slot)
    (hkey : entry.1 ≠ key) : Fills read key (entries ++ [entry]) slot := by
  cases slot with
  | none =>
      intro other hother
      rcases List.mem_append.mp hother with hmem | hmem
      · exact h other hmem
      · rw [List.mem_singleton.mp hmem]
        exact hkey
  | some x =>
      obtain ⟨c, hfilter, hread⟩ := h
      refine ⟨c, ?_, hread⟩
      rw [List.filter_append, hfilter]
      simp [hkey]

theorem Fills.append_first {c : Content} {x : β} (h : Fills read key entries none)
    (hread : read c = .ok x) : Fills read key (entries ++ [(key, some c)]) (some x) := by
  refine ⟨c, ?_, hread⟩
  rw [List.filter_append, filter_eq_nil h]
  simp

theorem Fills.eq_none {slot : Option β} (h : Fills read key entries slot)
    (hkey : ∀ entry ∈ entries, entry.1 ≠ key) : slot = none := by
  cases slot with
  | none => rfl
  | some x =>
      obtain ⟨c, hfilter, -⟩ := h
      rw [filter_eq_nil hkey] at hfilter
      simp at hfilter

theorem Fills.eq_some {slot : Option β} (h : Fills read key entries slot)
    (hkey : ∃ entry ∈ entries, entry.1 = key) : ∃ x, slot = some x := by
  cases slot with
  | none =>
      obtain ⟨entry, hentry, hkey⟩ := hkey
      exact absurd hkey (h entry hentry)
  | some x => exact ⟨x, rfl⟩

theorem Fills.exists_mem {x : β} (h : Fills read key entries (some x)) :
    ∃ c, (key, some c) ∈ entries ∧ read c = .ok x := by
  obtain ⟨c, hfilter, hread⟩ := h
  have hmem : (key, some c) ∈ entries.filter fun entry => entry.1 = key := by
    rw [hfilter]
    exact List.mem_singleton_self _
  exact ⟨c, (List.mem_filter.mp hmem).1, hread⟩

theorem Fills.of_mem {slot : Option β} {c : Content} (h : Fills read key entries slot)
    (hmem : (key, some c) ∈ entries) : ∃ x, slot = some x ∧ read c = .ok x := by
  cases slot with
  | none => exact absurd rfl (h _ hmem)
  | some x =>
      obtain ⟨c', hfilter, hread⟩ := h
      have hsingle : (key, some c) ∈ [(key, some c')] := by
        rw [← hfilter]
        exact List.mem_filter.mpr ⟨hmem, by simp⟩
      have hc : c = c' := by
        simpa using hsingle
      exact ⟨x, rfl, hc ▸ hread⟩

/-- The only entry of a key is not preceded by another one, and its value reads. -/
theorem Fills.of_split {slot : Option β} {before after : List Entry} {content : Option Content}
    (h : Fills read key (before ++ (key, content) :: after) slot) :
    (∀ entry ∈ before, entry.1 ≠ key) ∧ ∃ c x, content = some c ∧ read c = .ok x := by
  cases slot with
  | none => exact absurd rfl (h (key, content) (by simp))
  | some x =>
      obtain ⟨c, hfilter, hread⟩ := h
      rw [List.filter_append, List.filter_cons_of_pos (by simp)] at hfilter
      cases hbefore : before.filter fun entry => entry.1 = key with
      | nil =>
          rw [hbefore] at hfilter
          have hcontent : content = some c := by
            simpa using (List.cons.inj hfilter).1
          refine ⟨?_, c, x, hcontent, hread⟩
          simpa [List.filter_eq_nil_iff] using hbefore
      | cons entry rest =>
          rw [hbefore] at hfilter
          simp at hfilter

end Fills

variable {read : Content → Except ReadError α} {expected : String} {entries before : List Entry}
  {fields : StoredFields α} {entry : Entry} {e : ReadError}

/-- The state after entries none of which offends. -/
structure Taken (read : Content → Except ReadError α) (entries : List Entry)
    (fields : StoredFields α) : Prop where
  keys : ∀ entry ∈ entries, entry.1 = "value" ∨ entry.1 = "unit"
  value : Fills read "value" entries fields.value
  unit : Fills readText "unit" entries fields.unit

theorem taken_nil : Taken read [] {} :=
  ⟨by simp, by simp [Fills], by simp [Fills]⟩

theorem Taken.append (h : Taken read before fields) (hkey : entry.1 = "value" ∨ entry.1 = "unit")
    {fields' : StoredFields α} (hvalue : Fills read "value" (before ++ [entry]) fields'.value)
    (hunit : Fills readText "unit" (before ++ [entry]) fields'.unit) :
    Taken read (before ++ [entry]) fields' := by
  refine ⟨fun other hother => ?_, hvalue, hunit⟩
  rcases List.mem_append.mp hother with hmem | hmem
  · exact h.keys other hmem
  · rw [List.mem_singleton.mp hmem]
    exact hkey

theorem take_of_offends (h : Taken read before fields) (hoffends : Offends read before entry e) :
    fields.take read entry.1 entry.2 = .error e := by
  cases hoffends with
  | unknown hvalue hunit =>
      unfold take
      split
      · contradiction
      · contradiction
      · rfl
  | repeated hkey hbefore =>
      rcases hkey with rfl | rfl
      · obtain ⟨x, hx⟩ := h.value.eq_some hbefore
        simp [take, hx]
      · obtain ⟨x, hx⟩ := h.unit.eq_some hbefore
        simp [take, hx]
  | broken hkey hbefore =>
      rcases hkey with rfl | rfl
      · simp [take, h.value.eq_none hbefore]
      · simp [take, h.unit.eq_none hbefore]
  | value hbefore hread =>
      simp only [take, h.value.eq_none hbefore, hread]
      rfl
  | unit hbefore hread =>
      simp only [take, h.unit.eq_none hbefore, hread]
      rfl

/-- One step: an entry that does not offend is taken. -/
theorem take_of_not_offends (h : Taken read before fields)
    (hclean : ∀ e, ¬ Offends read before entry e) :
    ∃ fields', fields.take read entry.1 entry.2 = .ok fields' ∧
      Taken read (before ++ [entry]) fields' := by
  obtain ⟨key, content⟩ := entry
  have hkey : key = "value" ∨ key = "unit" := by
    by_contra hother
    rw [not_or] at hother
    exact hclean _ (.unknown hother.1 hother.2)
  have hbefore : ∀ other ∈ before, other.1 ≠ key := by
    intro other hother heq
    exact hclean _ (.repeated hkey ⟨other, hother, heq⟩)
  cases content with
  | none => exact absurd (.broken hkey hbefore) (hclean _)
  | some c =>
      rcases hkey with rfl | rfl
      · have hnone := h.value.eq_none hbefore
        cases hread : read c with
        | error e => exact absurd (.value hbefore hread) (hclean e)
        | ok x =>
            exact ⟨_, take_value hnone hread, h.append (.inl rfl)
              ((hnone ▸ h.value).append_first hread) (h.unit.append_other (by simp))⟩
      · have hnone := h.unit.eq_none hbefore
        cases hread : readText c with
        | error e => exact absurd (.unit hbefore hread) (hclean e)
        | ok text =>
            refine ⟨{ fields with unit := some text }, ?_, h.append (.inr rfl)
              (h.value.append_other (by simp)) ((hnone ▸ h.unit).append_first hread)⟩
            simp only [take, hnone, hread]
            rfl

theorem Clean.of_append {after : List Entry} (h : Clean read (before ++ after)) :
    Clean read before := by
  rintro before' entry after' rfl
  exact h before' entry (after' ++ after) (by simp)

/-- A run: entries that do not offend are taken, whatever comes after them. -/
theorem takeAll_of_clean (more : Members) (h : Taken read before fields) (entries : List Entry)
    (hclean : Clean read (before ++ entries)) :
    ∃ fields', Taken read (before ++ entries) fields' ∧
      fields.takeAll read (Members.ofEntries more entries) = fields'.takeAll read more := by
  induction entries generalizing before fields with
  | nil => exact ⟨fields, by simpa using h, rfl⟩
  | cons entry entries ih =>
      obtain ⟨fields', htake, htaken⟩ :=
        take_of_not_offends h (hclean before entry entries rfl)
      have hsplit : before ++ entry :: entries = before ++ [entry] ++ entries := by
        simp
      rw [hsplit] at hclean ⊢
      obtain ⟨fields'', htaken', hrun⟩ := ih htaken hclean
      refine ⟨fields'', htaken', ?_⟩
      rw [Members.ofEntries, takeAll, htake]
      exact hrun

theorem Taken.clean (h : Taken read entries fields) : Clean read entries := by
  rintro before entry after rfl e hoffends
  cases hoffends with
  | unknown hvalue hunit =>
      rcases h.keys _ (List.mem_append_right _ List.mem_cons_self) with hkey | hkey
      · exact hvalue hkey
      · exact hunit hkey
  | repeated hkey hbefore =>
      obtain ⟨other, hother, heq⟩ := hbefore
      rcases hkey with rfl | rfl
      · exact h.value.of_split.1 other hother heq
      · exact h.unit.of_split.1 other hother heq
  | broken hkey =>
      rcases hkey with rfl | rfl
      · obtain ⟨-, c, x, hc, -⟩ := h.value.of_split
        simp at hc
      · obtain ⟨-, c, x, hc, -⟩ := h.unit.of_split
        simp at hc
  | value hbefore hread =>
      obtain ⟨-, c, x, hc, hok⟩ := h.value.of_split
      cases hc
      rw [hread] at hok
      simp at hok
  | unit hbefore hread =>
      obtain ⟨-, c, x, hc, hok⟩ := h.unit.of_split
      cases hc
      rw [hread] at hok
      simp at hok

theorem visit_of_clean (expected : String) (rest : List Char) (hclean : Clean read entries) :
    ∃ fields, Taken read entries fields ∧
      visit read expected (Members.ofEntries (.closed rest) entries) =
        (fields.complete expected).map fun x => (x, rest) := by
  obtain ⟨fields, htaken, hrun⟩ := takeAll_of_clean (.closed rest) taken_nil entries hclean
  refine ⟨fields, htaken, ?_⟩
  unfold visit
  rw [hrun, takeAll, ← Logged.bind_ok]
  rfl

/-- The first offending entry decides, whatever follows it. -/
theorem visit_of_offends (hclean : Clean read before) (hoffends : Offends read before entry e)
    (more : Members) :
    visit read expected (Members.ofEntries (.entry entry.1 entry.2 more) before) =
      ⟨.error e, []⟩ := by
  obtain ⟨fields, htaken, hrun⟩ :=
    takeAll_of_clean (.entry entry.1 entry.2 more) taken_nil before hclean
  have htake := take_of_offends htaken hoffends
  unfold visit
  rw [hrun, takeAll, htake]
  rfl

theorem ofEntries_append (more : Members) (entries after : List Entry) :
    Members.ofEntries more (entries ++ after) =
      Members.ofEntries (Members.ofEntries more after) entries := by
  induction entries with
  | nil => rfl
  | cons entry entries ih => rw [List.cons_append, Members.ofEntries, Members.ofEntries, ih]

theorem clean_concat_iff {last : Entry} :
    Clean read (entries ++ [last]) ↔ Clean read entries ∧ ∀ e, ¬ Offends read entries last e := by
  constructor
  · intro h
    exact ⟨h.of_append, h entries last [] rfl⟩
  · rintro ⟨hclean, hlast⟩ before entry after h
    rcases List.eq_nil_or_concat after with rfl | ⟨after, final, rfl⟩
    · obtain ⟨rfl, hentry⟩ := List.append_inj' h rfl
      cases hentry
      exact hlast
    · have hinit : entries = before ++ entry :: after := by
        rw [List.concat_eq_append, ← List.cons_append, ← List.append_assoc] at h
        exact (List.append_inj' h rfl).1
      exact hclean before entry after hinit

/-- If entries are not clean, one of them is the first that offends. -/
theorem exists_first_offence (h : ¬ Clean read entries) :
    ∃ before entry after e,
      entries = before ++ entry :: after ∧ Clean read before ∧ Offends read before entry e := by
  induction entries using List.reverseRecOn with
  | nil =>
      refine absurd ?_ h
      intro before entry after hnil
      simp at hnil
  | append_singleton entries last ih =>
      by_cases hclean : Clean read entries
      · have hlast : ∃ e, Offends read entries last e := by
          by_contra hnone
          exact h (clean_concat_iff.mpr ⟨hclean, not_exists.mp hnone⟩)
        obtain ⟨e, hlast⟩ := hlast
        exact ⟨entries, last, [], e, rfl, hclean, hlast⟩
      · obtain ⟨before, entry, after, e, rfl, hfirst⟩ := ih hclean
        exact ⟨before, entry, after ++ [last], e, by simp, hfirst⟩

theorem readText_eq_ok_iff {c : Content} {text : String} :
    readText c = .ok text ↔ c = .text text := by
  cases c <;> simp [readText]

/-- What becomes of the fields: the value is missing, the unit is right or not asked for, or it is
another one. -/
theorem complete_cases (expected : String) (fields : StoredFields α) :
    (fields.value = none ∧ fields.complete expected = ⟨.error (.missingField "value"), []⟩) ∨
    (∃ x, fields.value = some x ∧ (fields.unit = none ∨ fields.unit = some expected) ∧
      fields.complete expected = ⟨.ok x, []⟩) ∨
    ∃ x found, fields.value = some x ∧ fields.unit = some found ∧ found ≠ expected ∧
      fields.complete expected =
        ⟨.error (.unit (.mismatch expected found)),
          [(UnitError.mismatch expected found).event]⟩ := by
  rcases fields with ⟨_ | x, _ | found⟩
  · exact .inl ⟨rfl, rfl⟩
  · exact .inl ⟨rfl, rfl⟩
  · exact .inr (.inl ⟨x, rfl, .inl rfl, rfl⟩)
  · by_cases hfound : found = expected
    · refine .inr (.inl ⟨x, rfl, .inr (congrArg some hfound), ?_⟩)
      rw [complete_of_found, if_pos hfound]
    · refine .inr (.inr ⟨x, found, rfl, rfl, hfound, ?_⟩)
      rw [complete_of_found, if_neg hfound]

theorem complete_eq_ok_iff {x : α} :
    (fields.complete expected).result = .ok x ↔
      fields.value = some x ∧ (fields.unit = none ∨ fields.unit = some expected) := by
  obtain ⟨hvalue, hcomplete⟩ | ⟨y, hvalue, hunit, hcomplete⟩ |
    ⟨y, found, hvalue, hunit, hne, hcomplete⟩ := complete_cases expected fields
  · simp [hcomplete, hvalue]
  · simp [hcomplete, hvalue, hunit]
  · simp [hcomplete, hvalue, hunit, hne]

theorem complete_eq_error_iff :
    (fields.complete expected).result = .error e ↔
      (fields.value = none ∧ e = .missingField "value") ∨
      ((∃ x, fields.value = some x) ∧ ∃ found, fields.unit = some found ∧ found ≠ expected ∧
        e = .unit (.mismatch expected found)) := by
  obtain ⟨hvalue, hcomplete⟩ | ⟨y, hvalue, hunit, hcomplete⟩ |
    ⟨y, found, hvalue, hunit, hne, hcomplete⟩ := complete_cases expected fields
  · simp [hcomplete, hvalue, eq_comm]
  · obtain hunit | hunit := hunit <;> simp [hcomplete, hvalue, hunit]
  · simp [hcomplete, hvalue, hunit, hne, eq_comm (a := e)]

/-- A line is logged for another unit, and for nothing else. -/
theorem log_complete (expected : String) (fields : StoredFields α) :
    (fields.complete expected).log =
      match (fields.complete expected).result with
      | .error (.unit error) => [error.event]
      | _ => [] := by
  obtain ⟨-, hcomplete⟩ | ⟨x, -, -, hcomplete⟩ | ⟨x, found, -, -, -, hcomplete⟩ :=
    complete_cases expected fields
  all_goals rw [hcomplete]

theorem Taken.complete_eq_ok_iff (h : Taken read entries fields) {x : α} :
    (fields.complete expected).result = .ok x ↔ Accepted read expected entries x := by
  rw [StoredFields.complete_eq_ok_iff]
  constructor
  · rintro ⟨hvalue, hunit⟩
    refine ⟨h.keys, ?_, ?_⟩
    · have hfills := h.value
      rw [hvalue] at hfills
      exact hfills
    · have hfills := h.unit
      rcases hunit with hnone | hsome
      · rw [hnone] at hfills
        exact .inl (filter_eq_nil hfills)
      · rw [hsome] at hfills
        exact .inr hfills
  · rintro ⟨-, hvalue, hunit⟩
    obtain ⟨c, hmem, hread⟩ := Fills.exists_mem hvalue
    obtain ⟨y, hy, hread'⟩ := h.value.of_mem hmem
    rw [hread] at hread'
    cases hread'
    refine ⟨hy, ?_⟩
    rcases hunit with hnone | hsome
    · left
      apply h.unit.eq_none
      simpa [List.filter_eq_nil_iff] using hnone
    · right
      obtain ⟨c', hmem', hread'⟩ := Fills.exists_mem hsome
      obtain ⟨text, htext, hread''⟩ := h.unit.of_mem hmem'
      rw [hread'] at hread''
      cases hread''
      exact htext

theorem Accepted.exists_taken {x : α} (h : Accepted read expected entries x) :
    ∃ fields, Taken read entries fields := by
  obtain ⟨hkeys, hvalue, hunit⟩ := h
  rcases hunit with hnone | hsome
  · refine ⟨⟨some x, none⟩, hkeys, hvalue, ?_⟩
    simpa [Fills, List.filter_eq_nil_iff] using hnone
  · exact ⟨⟨some x, some expected⟩, hkeys, hvalue, hsome⟩

theorem Taken.complete_eq_error_iff (h : Taken read entries fields) :
    (fields.complete expected).result = .error e ↔
      ((∀ entry ∈ entries, entry.1 ≠ "value") ∧ e = .missingField "value") ∨
      ∃ found, Mismatched read expected entries found ∧ e = .unit (.mismatch expected found) := by
  rw [StoredFields.complete_eq_error_iff]
  constructor
  · rintro (⟨hvalue, he⟩ | ⟨⟨x, hvalue⟩, found, hunit, hne, he⟩)
    · have hfills := h.value
      rw [hvalue] at hfills
      exact .inl ⟨hfills, he⟩
    · have hvalues := h.value
      rw [hvalue] at hvalues
      obtain ⟨c, hmem, -⟩ := hvalues.exists_mem
      have hunits := h.unit
      rw [hunit] at hunits
      obtain ⟨c', hmem', hread⟩ := hunits.exists_mem
      rw [readText_eq_ok_iff.mp hread] at hmem'
      exact .inr ⟨found, ⟨h.clean, ⟨_, hmem, rfl⟩, hmem', hne⟩, he⟩
  · rintro (⟨hvalue, he⟩ | ⟨found, hmismatch, he⟩)
    · exact .inl ⟨h.value.eq_none hvalue, he⟩
    · obtain ⟨text, htext, hread⟩ := h.unit.of_mem hmismatch.unit
      cases hread
      exact .inr ⟨h.value.eq_some hmismatch.value, found, htext, hmismatch.ne, he⟩

theorem visit_eq_error_of_first {after : List Entry} (rest : List Char)
    (hclean : Clean read before) (hoffends : Offends read before entry e) :
    visit read expected (Members.ofEntries (.closed rest) (before ++ entry :: after)) =
      ⟨.error e, []⟩ := by
  rw [ofEntries_append]
  exact visit_of_offends hclean hoffends _

theorem visit_eq_ok_iff {x : α} {rest rest' : List Char} :
    (visit read expected (Members.ofEntries (.closed rest) entries)).result = .ok (x, rest') ↔
      rest' = rest ∧ Accepted read expected entries x := by
  by_cases hclean : Clean read entries
  · obtain ⟨fields, htaken, hvisit⟩ := visit_of_clean expected rest hclean
    rw [hvisit, ← htaken.complete_eq_ok_iff, Logged.map]
    cases (fields.complete expected).result with
    | error e => simp [Except.map]
    | ok y => simp [Except.map, and_comm, eq_comm (a := rest)]
  · constructor
    · intro hok
      obtain ⟨before, entry, after, e, rfl, hbefore, hoffends⟩ := exists_first_offence hclean
      rw [visit_eq_error_of_first rest hbefore hoffends] at hok
      simp at hok
    · rintro ⟨-, haccepted⟩
      obtain ⟨fields, htaken⟩ := haccepted.exists_taken
      exact absurd htaken.clean hclean

theorem visit_eq_error_iff {rest : List Char} :
    (visit read expected (Members.ofEntries (.closed rest) entries)).result = .error e ↔
      Rejected read expected entries e := by
  constructor
  · intro herror
    by_cases hclean : Clean read entries
    · obtain ⟨fields, htaken, hvisit⟩ := visit_of_clean expected rest hclean
      rw [hvisit, Logged.map] at herror
      have hcomplete : (fields.complete expected).result = .error e := by
        cases hfields : (fields.complete expected).result with
        | error e' => simpa [hfields, Except.map] using herror
        | ok y => simp [hfields, Except.map] at herror
      rcases htaken.complete_eq_error_iff.mp hcomplete with ⟨hvalue, rfl⟩ | ⟨found, hfound, rfl⟩
      · exact .missing hclean hvalue
      · exact .mismatch hfound
    · obtain ⟨before, entry, after, e', rfl, hbefore, hoffends⟩ := exists_first_offence hclean
      rw [visit_eq_error_of_first rest hbefore hoffends] at herror
      cases herror
      exact .offence rfl hbefore hoffends
  · intro hrejected
    cases hrejected with
    | offence hentries hclean hoffends =>
        rw [hentries, visit_eq_error_of_first rest hclean hoffends]
    | missing hclean hvalue =>
        obtain ⟨fields, htaken, hvisit⟩ := visit_of_clean expected rest hclean
        rw [hvisit, Logged.map, htaken.complete_eq_error_iff.mpr (.inl ⟨hvalue, rfl⟩)]
        rfl
    | mismatch hmismatch =>
        obtain ⟨fields, htaken, hvisit⟩ := visit_of_clean expected rest hmismatch.clean
        rw [hvisit, Logged.map, htaken.complete_eq_error_iff.mpr (.inr ⟨_, hmismatch, rfl⟩)]
        rfl

theorem visit_of_mismatched {found : String} (rest : List Char)
    (h : Mismatched read expected entries found) :
    visit read expected (Members.ofEntries (.closed rest) entries) =
      ⟨.error (.unit (.mismatch expected found)),
        [(UnitError.mismatch expected found).event]⟩ := by
  obtain ⟨fields, htaken, hvisit⟩ := visit_of_clean expected rest h.clean
  have herror := htaken.complete_eq_error_iff.mpr (.inr ⟨found, h, rfl⟩)
  rw [hvisit, Logged.map, log_complete, herror]
  rfl

theorem log_visit_of_not_mismatched (rest : List Char)
    (h : ∀ found, ¬ Mismatched read expected entries found) :
    (visit read expected (Members.ofEntries (.closed rest) entries)).log = [] := by
  by_cases hclean : Clean read entries
  · obtain ⟨fields, htaken, hvisit⟩ := visit_of_clean expected rest hclean
    rw [hvisit, Logged.map, log_complete]
    split
    · rename_i error herror
      obtain ⟨-, he⟩ | ⟨found, hmismatched, -⟩ := htaken.complete_eq_error_iff.mp herror
      · cases he
      · exact absurd hmismatched (h found)
    · rfl
  · obtain ⟨before, entry, after, e, rfl, hbefore, hoffends⟩ := exists_first_offence hclean
    rw [visit_eq_error_of_first rest hbefore hoffends]

end StoredFields

namespace Quantity

open StoredFields

theorem readMagnitudeWithUnit_eq_visit {α : Type} [Written α] (d : Dimension) {text : String}
    {rest : List Char} (h : readContent text = .ok (.map, rest)) :
    (readMagnitudeWithUnit d text : Logged ReadError α) =
      visit Written.read d.vector.symbol (Members.scan (rest.length + 1) true rest) >>=
        fun (x, rest) => liftM ((finish rest).map fun _ => x) := by
  unfold readMagnitudeWithUnit
  rw [h, Logged.liftM_eq, Logged.ok_bind]
  dsimp only
  obtain ⟨result, log⟩ :=
    visit (α := α) Written.read d.vector.symbol (Members.scan (rest.length + 1) true rest)
  cases result with
  | error e => rfl
  | ok found =>
      cases hfinish : finish found.2 <;> simp [hfinish, Except.map]

/-- The entries decide, for every number type and dimension: which magnitude is accepted, in any
order of the entries, and which error a rejected object has. The first offending entry is reported
whatever follows it, and a line is logged for nothing but a unit that is not the expected one. -/
theorem stored_entries_decide (kind : Number.Kind) (d : Dimension) (entries : List Members.Entry)
    (rest : List Char) :
    let read : Content → Except ReadError kind.Carrier := Written.read
    let outcome (members : Members) := visit read d.vector.symbol members
    (∀ x, (outcome (.ofEntries (.closed rest) entries)).result = .ok (x, rest) ↔
      Accepted read d.vector.symbol entries x) ∧
    (∀ entries', entries.Perm entries' → ∀ x,
      (outcome (.ofEntries (.closed rest) entries)).result = .ok (x, rest) ↔
        (outcome (.ofEntries (.closed rest) entries')).result = .ok (x, rest)) ∧
    (∀ e, (outcome (.ofEntries (.closed rest) entries)).result = .error e ↔
      Rejected read d.vector.symbol entries e) ∧
    (∀ before entry e more, Clean read before → Offends read before entry e →
      outcome (.ofEntries (.entry entry.1 entry.2 more) before) = ⟨.error e, []⟩) ∧
    (∀ found, Mismatched read d.vector.symbol entries found →
      outcome (.ofEntries (.closed rest) entries) =
        ⟨.error (.unit (.mismatch d.vector.symbol found)),
          [(UnitError.mismatch d.vector.symbol found).event]⟩) ∧
    ((∀ found, ¬ Mismatched read d.vector.symbol entries found) →
      (outcome (.ofEntries (.closed rest) entries)).log = []) ∧
    ∀ text tail, readContent text = .ok (.map, tail) →
      Members.scan (tail.length + 1) true tail = .ofEntries (.closed rest) entries →
      finish rest = .ok () →
      readMagnitudeWithUnit d text =
        (outcome (.ofEntries (.closed rest) entries)).map Prod.fst := by
  intro read outcome
  have haccepted : ∀ entries' x,
      (outcome (.ofEntries (.closed rest) entries')).result = .ok (x, rest) ↔
        Accepted read d.vector.symbol entries' x := by
    intro entries' x
    exact visit_eq_ok_iff.trans (and_iff_right rfl)
  refine ⟨haccepted entries, ?_, fun e => visit_eq_error_iff, ?_,
    fun found => visit_of_mismatched rest, log_visit_of_not_mismatched rest, ?_⟩
  · intro entries' hperm x
    rw [haccepted, haccepted]
    exact ⟨.perm hperm, .perm hperm.symm⟩
  · intro before entry e more hclean hoffends
    exact visit_of_offends hclean hoffends more
  · intro text tail hcontent hscan hfinish
    rw [readMagnitudeWithUnit_eq_visit d hcontent, hscan]
    change outcome (.ofEntries (.closed rest) entries) >>= _ = _
    cases hvisit : outcome (.ofEntries (.closed rest) entries) with
    | mk result log =>
      cases result with
      | error e => rfl
      | ok found =>
          obtain ⟨x, rest'⟩ := found
          obtain ⟨rfl, -⟩ := visit_eq_ok_iff.mp (congrArg Logged.result hvisit)
          simp [Logged.map, Except.map, hfinish]

/-- A force of three is read, whichever entry comes first, and from the text as well, and nothing
is logged. An unknown key is reported although the unit in front of it is that of an energy and
the text behind it is broken; without it the unit is reported, with a line in the log. -/
theorem stored_entries_decide_force :
    let read : Content → Except ReadError (BoundedInt .int8) := Written.read
    let three : Members.Entry := ("value", some (.number (Literal.ofInt 3)))
    let newton : Members.Entry := ("unit", some (.text "N"))
    let joule : Members.Entry := ("unit", some (.text "J"))
    visit read "N" (.ofEntries (.closed []) [three, newton]) =
      ⟨.ok (BoundedInt.wrap .int8 3, []), []⟩ ∧
    readMagnitudeWithUnit ⟨1, 1, -2, 0, 0, 0, 0⟩ "\x7b\"unit\":\"N\",\"value\":3\x7d" =
      ⟨.ok (BoundedInt.wrap .int8 3), []⟩ ∧
    visit read "N" (.ofEntries (.entry "mass" none .broken) [joule]) =
      ⟨.error (.unknownField "mass"), []⟩ ∧
    visit read "N" (.ofEntries (.closed []) [joule, three]) =
      ⟨.error (.unit (.mismatch "N" "J")),
        ["rejecting quantity with unit 'J', expected 'N'"]⟩ := by
  intro read three newton joule
  have hsymbol : (Dimension.vector ⟨1, 1, -2, 0, 0, 0, 0⟩).symbol = "N" := by decide
  have hforce := stored_entries_decide (.integer .int8) ⟨1, 1, -2, 0, 0, 0, 0⟩ [newton, three] []
  have hforce' := stored_entries_decide (.integer .int8) ⟨1, 1, -2, 0, 0, 0, 0⟩ [three, newton] []
  have henergy := stored_entries_decide (.integer .int8) ⟨1, 1, -2, 0, 0, 0, 0⟩ [joule, three] []
  rw [hsymbol] at hforce hforce' henergy
  obtain ⟨hok, hperm, -, -, hother, hsilent, htext⟩ := hforce
  obtain ⟨-, -, -, -, hother', hsilent', -⟩ := hforce'
  obtain ⟨-, -, -, hoffence, hmismatch, -⟩ := henergy
  have haccepted : Accepted read "N" [newton, three] (BoundedInt.wrap .int8 3) :=
    ⟨by simp [newton, three], ⟨_, rfl, rfl⟩, .inr ⟨_, rfl, rfl⟩⟩
  have hread := (hok _).mpr haccepted
  have hread' := (hperm [three, newton] (.swap ..) _).mp hread
  have htaken : Taken read [joule, three] ⟨some (BoundedInt.wrap .int8 3), some "J"⟩ :=
    ⟨by simp [joule, three], ⟨_, rfl, rfl⟩, ⟨_, rfl, rfl⟩⟩
  have hmismatched : Mismatched read "N" [joule, three] "J" :=
    ⟨htaken.clean, ⟨three, by simp, rfl⟩, by simp [joule], by decide⟩
  refine ⟨Logged.ext hread' (hsilent' fun found h => ?_), ?_, ?_, hmismatch "J" hmismatched⟩
  · rw [hother' found h] at hread'
    cases hread'
  · refine (htext "\x7b\"unit\":\"N\",\"value\":3\x7d" _ rfl rfl rfl).trans ?_
    refine Logged.ext (congrArg (Except.map Prod.fst) hread) (hsilent fun found h => ?_)
    rw [hother found h] at hread
    cases hread
  · exact hoffence [joule] ("mass", none) _ .broken (Clean.of_append htaken.clean)
      (.unknown (by decide) (by decide))

end Quantity

end Metrology
