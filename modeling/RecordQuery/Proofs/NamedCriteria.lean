import Mathlib.Data.List.Perm.Basic
import RecordQuery.Proofs.LookupOutcomes
/-!
Mappings as criteria: what becomes of their entries.

A mapping is accepted as a search exactly if each of its keys is a name and each of its values can be
classified, and the search is made of the matchers in the order of the mapping (`Search.ofEntries_eq_ok`).
A value that cannot be classified is in the way of it (`Search.ofEntries_eq_error_of_mem`). Entries that are
put into a mapping under new keys come behind it (`mergeEntries_of_distinct`).
-/

namespace RecordQuery

def DistinctKeys (entries : List (Value × Value)) : Prop :=
  entries.Pairwise fun e e' => e.1.sameKey e'.1 = false

/-- A mapping with the given entries: a dictionary, or a mapping of another class. -/
structure IsMapping (entries : List (Value × Value)) (v : Value) : Prop where
  form : v = .dict entries ∨ v = .map entries
  distinct : DistinctKeys entries

namespace Search

/-! ## The matchers that entries ask for -/

/-- The name and the matcher that an entry of a mapping asks for. -/
structure Denotes (entry : Value × Value) (asked : String × Matcher) : Prop where
  name : textOf entry.1 = .ok asked.1
  matcher : Matcher.ofExpected entry.2 = .ok asked.2

/-- A classified entry put into a search, if its key is a name. -/
def place (s : Search) (entry : Value × Matcher) : Search :=
  match textOf entry.1 with
  | .ok name => s.put name entry.2
  | .error _ => s

section
variable {entries : List (Value × Value)} {classified : List (Value × Matcher)} {asked s : Search}
  {e : Failure}

theorem place_of_text {entry : Value × Matcher} {name : String} (h : textOf entry.1 = .ok name) :
    s.place entry = s.put name entry.2 := by
  rw [place, h]

theorem classify_cons_eq_ok {entry : Value × Value} :
    classify (entry :: entries) = .ok classified ↔
      ∃ m rest, Matcher.ofExpected entry.2 = .ok m ∧ classify entries = .ok rest ∧
        classified = (entry.1, m) :: rest := by
  rw [classify]
  cases Matcher.ofExpected entry.2 with
  | error e => simp [bind, Except.bind]
  | ok m =>
    cases classify entries with
    | error e => simp [bind, Except.bind]
    | ok rest => simp [bind, Except.bind, pure, Except.pure, eq_comm]

theorem keyIssues_eq_nil :
    keyIssues classified = [] ↔ ∀ entry ∈ classified, ∃ name, textOf entry.1 = .ok name := by
  rw [keyIssues, List.filterMap_eq_nil_iff]
  apply forall₂_congr
  intro entry _
  dsimp only
  cases textOf entry.1 <;> simp

theorem exists_asked (h : classify entries = .ok classified) (valid : keyIssues classified = []) :
    ∃ asked, List.Forall₂ Denotes entries asked ∧ ∀ s, classified.foldl place s = s.putAll asked := by
  induction entries generalizing classified with
  | nil =>
    cases h
    exact ⟨[], .nil, fun _ => rfl⟩
  | cons entry entries ih =>
    obtain ⟨m, rest, hm, hr, rfl⟩ := classify_cons_eq_ok.1 h
    obtain ⟨⟨name, text⟩, others⟩ := List.forall_mem_cons.1 (keyIssues_eq_nil.1 valid)
    obtain ⟨asked, denoted, placed⟩ := ih hr (keyIssues_eq_nil.2 others)
    refine ⟨(name, m) :: asked, .cons ⟨text, hm⟩ denoted, fun s => ?_⟩
    rw [List.foldl_cons, place_of_text text, placed]
    rfl

theorem classify_of_denotes (h : List.Forall₂ Denotes entries asked) :
    ∃ classified, classify entries = .ok classified ∧ keyIssues classified = [] ∧
      ∀ s, classified.foldl place s = s.putAll asked := by
  induction h with
  | nil => exact ⟨[], rfl, rfl, fun _ => rfl⟩
  | @cons entry pair entries asked here _ ih =>
    obtain ⟨rest, hr, valid, placed⟩ := ih
    refine ⟨(entry.1, pair.2) :: rest, ?_, ?_, fun s => ?_⟩
    · exact classify_cons_eq_ok.2 ⟨pair.2, rest, here.matcher, hr, rfl⟩
    · exact keyIssues_eq_nil.2 (List.forall_mem_cons.2 ⟨⟨pair.1, here.name⟩, keyIssues_eq_nil.1 valid⟩)
    · rw [List.foldl_cons, place_of_text here.name, placed]
      rfl

theorem denotes_append {more : List (Value × Value)} :
    List.Forall₂ Denotes (entries ++ more) asked ↔
      ∃ s t, List.Forall₂ Denotes entries s ∧ List.Forall₂ Denotes more t ∧ asked = s ++ t := by
  constructor
  · intro h
    have before := List.forall₂_take entries.length h
    have behind := List.forall₂_drop entries.length h
    rw [List.take_left] at before
    rw [List.drop_left] at behind
    exact ⟨_, _, before, behind, (List.take_append_drop _ asked).symm⟩
  · intro ⟨s, t, before, behind, same⟩
    rw [same]
    exact List.rel_append before behind

/-- A mapping is accepted exactly if every entry asks for a matcher under a name; the matchers are put under
their names in order. -/
theorem ofEntries_eq_ok :
    ofEntries entries = .ok s ↔ ∃ asked, List.Forall₂ Denotes entries asked ∧ s = putAll [] asked := by
  have unfolded : ofEntries entries = classify entries >>= fun c =>
      if (keyIssues c).isEmpty then .ok (c.foldl place []) else .error (invalid (keyIssues c)) := rfl
  rw [unfolded]
  constructor
  · intro h
    cases hc : classify entries with
    | error e =>
      rw [hc] at h
      cases h
    | ok classified =>
      rw [hc] at h
      -- classified entries are a search unless a key was refused
      by_cases valid : keyIssues classified = []
      · obtain ⟨asked, denoted, placed⟩ := exists_asked hc valid
        refine ⟨asked, denoted, ?_⟩
        rw [← placed]
        simp only [bind, Except.bind, valid] at h
        cases h
        rfl
      · simp [bind, Except.bind, valid] at h
  · intro h
    obtain ⟨asked, denoted, rfl⟩ := h
    obtain ⟨classified, hc, valid, placed⟩ := classify_of_denotes denoted
    rw [hc, ← placed]
    simp [bind, Except.bind, valid]

theorem classify_eq_error_of_mem {entry : Value × Value} (listed : entry ∈ entries)
    (h : Matcher.ofExpected entry.2 = .error e) : ∃ e', classify entries = .error e' := by
  cases hc : classify entries with
  | error e' => exact ⟨e', rfl⟩
  | ok classified =>
    exfalso
    induction entries generalizing classified with
    | nil => cases listed
    | cons other entries ih =>
      obtain ⟨m, rest, hm, hr, _⟩ := classify_cons_eq_ok.1 hc
      cases listed with
      | head => rw [h] at hm; cases hm
      | tail _ behind => exact ih behind rest hr

theorem ofEntries_eq_error_of_mem {entry : Value × Value} (listed : entry ∈ entries)
    (h : Matcher.ofExpected entry.2 = .error e) : ∃ e', ofEntries entries = .error e' ∧ e'.kind = .type := by
  obtain ⟨e', hc⟩ := classify_eq_error_of_mem listed h
  refine ⟨e', ?_, kind_of_classify_eq_error hc⟩
  rw [ofEntries, hc]
  rfl

end

/-! ## Expected values under names -/

section
variable {attributes : List (String × Value)} {asked : Search}

theorem names_of_denotes (h : List.Forall₂ Denotes (Criteria.named attributes) asked) :
    asked.names = attributes.map (·.1) := by
  induction attributes generalizing asked with
  | nil => cases h; rfl
  | cons pair attributes ih =>
    obtain ⟨entry, rest, here, others, rfl⟩ := List.forall₂_cons_left_iff.1 h
    have name : pair.1 = entry.1 := Except.ok.inj here.name
    rw [List.map_cons, ← ih others, name]
    rfl

theorem classified_or_fails (attributes : List (String × Value)) :
    (∀ pair ∈ attributes, ∃ m, Matcher.ofExpected pair.2 = .ok m) ∨
      ∃ pair ∈ attributes, ∃ e, Matcher.ofExpected pair.2 = .error e := by
  by_cases classified : ∀ pair ∈ attributes, ∃ m, Matcher.ofExpected pair.2 = .ok m
  · exact .inl classified
  · push Not at classified
    obtain ⟨pair, listed, fails⟩ := classified
    cases cause : Matcher.ofExpected pair.2 with
    | ok m => exact absurd cause (fails m)
    | error e => exact .inr ⟨pair, listed, e, cause⟩

theorem not_unclassified {pair : String × Value} {e : Failure} {P : Prop}
    (classified : ∀ pair ∈ attributes, ∃ m, Matcher.ofExpected pair.2 = .ok m) (listed : pair ∈ attributes)
    (failed : Matcher.ofExpected pair.2 = .error e) : P := by
  obtain ⟨m, made⟩ := classified pair listed
  rw [failed] at made
  cases made

theorem exists_denotes (classified : ∀ pair ∈ attributes, ∃ m, Matcher.ofExpected pair.2 = .ok m) :
    ∃ asked : Search, List.Forall₂ Denotes (Criteria.named attributes) asked := by
  induction attributes with
  | nil => exact ⟨[], .nil⟩
  | cons pair attributes ih =>
    obtain ⟨⟨m, here⟩, others⟩ := List.forall_mem_cons.1 classified
    obtain ⟨s, denoted⟩ := ih others
    exact ⟨(pair.1, m) :: s, .cons ⟨rfl, here⟩ denoted⟩

theorem exists_of_mem_denoted {entry : String × Matcher}
    (h : List.Forall₂ Denotes (Criteria.named attributes) asked) (listed : entry ∈ asked) :
    ∃ pair ∈ attributes, pair.1 = entry.1 ∧ Matcher.ofExpected pair.2 = .ok entry.2 := by
  induction attributes generalizing asked with
  | nil =>
    cases h
    cases listed
  | cons pair attributes ih =>
    obtain ⟨first, rest, here, others, rfl⟩ := List.forall₂_cons_left_iff.1 h
    cases listed with
    | head => exact ⟨pair, List.mem_cons_self, Except.ok.inj here.name, here.matcher⟩
    | tail _ behind =>
      obtain ⟨other, listed, asked⟩ := ih others behind
      exact ⟨other, List.mem_cons_of_mem pair listed, asked⟩

theorem ofEntries_named_eq_ok (distinct : (attributes.map (·.1)).Nodup) :
    ofEntries (Criteria.named attributes) = .ok asked ↔
      List.Forall₂ Denotes (Criteria.named attributes) asked := by
  have whole {t : Search} (h : List.Forall₂ Denotes (Criteria.named attributes) t) : putAll [] t = t := by
    apply putAll_of_nodup
    rw [List.nil_append, names_of_denotes h]
    exact distinct
  rw [ofEntries_eq_ok]
  constructor
  · intro h
    obtain ⟨t, denoted, rfl⟩ := h
    rw [whole denoted]
    exact denoted
  · intro denoted
    exact ⟨asked, denoted, (whole denoted).symm⟩

end
end Search

/-! ## Entries put into mappings -/

section
variable {entries more : List (Value × Value)} {key v : Value}

theorem putEntry_of_new (new : ∀ e ∈ entries, e.1.sameKey key = false) :
    putEntry entries key v = entries ++ [(key, v)] := by
  have none : ¬ (entries.any fun e => e.1.sameKey key) = true := by
    rw [List.any_eq_true]
    rintro ⟨e, he, same⟩
    rw [new e he] at same
    cases same
  exact if_neg none

theorem mergeEntries_of_distinct (h : DistinctKeys (entries ++ more)) :
    mergeEntries entries more = entries ++ more := by
  induction more generalizing entries with
  | nil => exact (List.append_nil entries).symm
  | cons e more ih =>
    have new : ∀ e' ∈ entries, e'.1.sameKey e.1 = false := fun e' he' =>
      (List.pairwise_append.1 h).2.2 e' he' e List.mem_cons_self
    have rest : DistinctKeys (entries ++ [e] ++ more) := by simpa using h
    calc mergeEntries entries (e :: more)
        = mergeEntries (entries ++ [e]) more := by
          show mergeEntries (putEntry entries e.1 e.2) more = _
          rw [putEntry_of_new new]
      _ = entries ++ [e] ++ more := ih rest
      _ = entries ++ e :: more := by simp

theorem distinctKeys_named {attributes : List (String × Value)} :
    DistinctKeys (Criteria.named attributes) ↔ (attributes.map (·.1)).Nodup := by
  rw [DistinctKeys, Criteria.named, List.pairwise_map, List.Nodup, List.pairwise_map]
  simp only [Search.sameKey_text, beq_eq_false_iff_ne]

end

namespace Criteria

variable {entries : List (Value × Value)} {m : Value} {attributes : List (String × Value)}

theorem outcome_ofEntries (entries : List (Value × Value)) :
    (ofEntries entries).outcome = (Search.ofEntries entries).map .search := by
  rw [ofEntries, Run.outcome_bind, Run.outcome_ofChecked]
  cases Search.ofEntries entries <;> rfl

theorem predicate_of_mapping (given : IsMapping entries m) :
    predicate m attributes = ofEntries (mergeEntries entries (named attributes)) := by
  rcases given.form with rfl | rfl
  · rfl
  · rfl

end Criteria
end RecordQuery
