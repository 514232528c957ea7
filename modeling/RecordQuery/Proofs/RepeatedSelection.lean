import RecordQuery.Proofs.Derivations
/-!
Selecting records from what the same selection has found.

A selection (a search, a lookup for all records, brackets around a wrapped key, a finder for all records)
finds a part of the records, and finds all of that part again in it (`SelectsAgain`). For a search this is so
because records pass or not by themselves (`selectsAgain_findAll`). A lookup goes through the finders again, on
fewer records: those that matched none of all records match none of the part, and the one that settled it
finds the whole part (`lookupAllAmong_again`).
-/

namespace RecordQuery

/-- The derivations that select records of the collection. Slices select by position, and additions add. -/
def Derivation.Selects : Derivation → Prop
  | .findAll .. | .lookupAll .. | .plural .. | .finder .. => True
  | .slice .. | .add .. => False

namespace Collection

/-- A way to find records finds a part of them in their order, and in that part, the same again. -/
def SelectsAgain (find : Collection → Checked Collection) : Prop :=
  ∀ c found, find c = .ok found →
    ∃ records, records.Sublist c.records ∧ found = c.withRecords records ∧ find found = .ok found

section
variable [Answers] {c : Collection} {key : Value}

/-! ## Searches -/

theorem selectsAgain_findAll (criteria : Value) (attributes : List (String × Value)) :
    SelectsAgain fun c => (c.findAll criteria attributes).outcome := by
  intro c found h
  obtain ⟨p, hp, _⟩ := Run.outcome_bind_eq_ok.1 h
  dsimp only at h ⊢
  rw [findAll_of_predicate hp] at h ⊢
  obtain ⟨answered, rfl⟩ := allWhere_eq_ok.1 h
  refine ⟨_, List.filter_sublist, rfl, ?_⟩
  have kept : (c.records.filter (Scan.passes p.holds)).filter (Scan.passes p.holds) =
      c.records.filter (Scan.passes p.holds) :=
    List.filter_eq_self.2 fun r listed => (List.mem_filter.1 listed).2
  refine allWhere_eq_ok.2 ⟨fun r listed => answered r (List.mem_filter.1 listed).1, ?_⟩
  show c.withRecords _ = c.withRecords ((c.records.filter (Scan.passes p.holds)).filter _)
  rw [kept]

/-! ## Lookups through default finders -/

theorem MatchesNone.of_sublist {finder : String} {records : List Value} (h : c.MatchesNone key finder)
    (part : records.Sublist c.records) : (c.withRecords records).MatchesNone key finder := by
  unfold MatchesNone at h ⊢
  obtain ⟨p, hp, _⟩ := Run.outcome_bind_eq_ok.1 h
  rw [findAll_of_predicate hp] at h ⊢
  obtain ⟨answered, none⟩ := allWhere_eq_ok.1 h
  refine allWhere_eq_ok.2 ⟨fun r listed => answered r (part.subset listed), ?_⟩
  have empty : [] = c.records.filter (Scan.passes p.holds) := congrArg Collection.records none
  have fewer : (records.filter (Scan.passes p.holds)).Sublist [] := by
    rw [empty]
    exact part.filter _
  show c.withRecords [] = c.withRecords (records.filter (Scan.passes p.holds))
  rw [List.sublist_nil.1 fewer]

theorem lookupAllAmong_again (names : List String) :
    SelectsAgain fun c => (c.lookupAllAmong key names).outcome := by
  intro c found h
  dsimp only at h ⊢
  induction names with
  | nil =>
    rw [lookupAllAmong_nil] at h
    cases h
    exact ⟨[], List.nil_sublist _, rfl, lookupAllAmong_nil⟩
  | cons finder rest ih =>
    cases tried : (c.findAll (finderEntry finder key) []).outcome with
    | error e =>
      rw [lookupAllAmong_cons_of_error tried] at h
      cases h
    | ok matched =>
      by_cases empty : matched.records = []
      · -- what the finders behind find is a part of the records, and in it this one has no match either
        have none : c.MatchesNone key finder :=
          matchesNone_of_isEmpty tried (List.isEmpty_iff.2 empty)
        rw [lookupAllAmong_cons_of_none none] at h
        obtain ⟨records, part, rfl, again⟩ := ih h
        refine ⟨records, part, rfl, ?_⟩
        rw [lookupAllAmong_cons_of_none (none.of_sublist part), again]
      · -- this finder settles the lookup, and searching with it again finds the same, which is some
        rw [lookupAllAmong_cons_of_some tried empty] at h
        cases h
        obtain ⟨records, part, rfl, again⟩ := selectsAgain_findAll _ _ c _ tried
        exact ⟨records, part, rfl, lookupAllAmong_cons_of_some again empty⟩

theorem selectsAgain_lookupAll (key : Value) : SelectsAgain fun c => (c.lookupAll key).outcome := by
  cases query : key.isQuery with
  | true =>
    simp only [lookupAll_of_query query]
    exact selectsAgain_findAll key []
  | false =>
    intro c found h
    have can : c.CanLookUp key := canLookUp_of_lookupAll h
    dsimp only at h ⊢
    rw [lookupAll_of_canLookUp query can] at h
    obtain ⟨records, part, rfl, again⟩ := lookupAllAmong_again _ c _ h
    have can_again : (c.withRecords records).CanLookUp key := can
    refine ⟨records, part, rfl, ?_⟩
    rw [lookupAll_of_canLookUp query can_again]
    exact again

/-! ## All selections -/

/-- A selection that answers is made by a way to find records, in the collection and in every part of it. -/
theorem exists_selectsAgain {d : Derivation} {v : Value} (selects : d.Selects)
    (answer : c.derive d = .ok v) : ∃ find, SelectsAgain find ∧
      ∀ records, (c.withRecords records).derive d = (find (c.withRecords records)).map toValue := by
  cases d with
  | findAll positional attributes =>
    cases given : Operation.criteria "find_all" positional with
    | error e =>
      rw [derive_findAll_of_error given] at answer
      cases answer
    | ok criteria =>
      exact ⟨_, selectsAgain_findAll criteria attributes, fun records => derive_findAll given attributes⟩
  | lookupAll key =>
    exact ⟨_, selectsAgain_lookupAll key, fun records => outcome_toValue _⟩
  | plural wrapper key wraps =>
    have looked : (c.getItem wrapper).outcome = .ok v := answer
    rw [answer_of_wrapped wraps] at looked
    obtain ⟨can, _⟩ := lookupAll_of_getQuery wraps looked
    refine ⟨_, selectsAgain_lookupAll key, fun records => ?_⟩
    have can_again : (c.withRecords records).CanLookUp key := can
    exact (answer_of_wrapped wraps).trans (getQuery_of_wrapped wraps can_again)
  | slice => cases selects
  | add => cases selects
  | finder name n parsed all arguments =>
    -- only a call with as many arguments as names answers
    by_cases count : arguments.length = n.attributes.length
    · refine ⟨_, selectsAgain_findAll (finderCriteria n.attributes arguments) [], fun records => ?_⟩
      rw [derive_finder]
      exact callFinder_of_all count all
    · rw [derive_finder, callFinder_of_count_ne count] at answer
      cases answer

/-- A selection that answers finds a part of the records in their order, and the same selection from that
part answers, with all of it. -/
theorem selection_idempotent {d : Derivation} {v : Value} (selects : d.Selects)
    (answer : c.derive d = .ok v) :
    ∃ records, records.Sublist c.records ∧ v = (c.withRecords records).toValue ∧
      (c.withRecords records).derive d = .ok v := by
  obtain ⟨find, repeats, made⟩ := exists_selectsAgain selects answer
  have here : c.derive d = (find c).map toValue := made c.records
  rw [here] at answer
  cases found : find c with
  | error e =>
    rw [found] at answer
    cases answer
  | ok selected =>
    rw [found] at answer
    cases answer
    obtain ⟨records, part, rfl, again⟩ := repeats c selected found
    refine ⟨records, part, rfl, ?_⟩
    rw [made records, again]
    rfl

end

/-- Brackets around a text in a list: the second finder settles the lookup, in all pages and in the one that
it finds. -/
theorem selection_idempotent_text :
    let page : Value := .record [("title", .text "index"), ("body", .text "news")] []
    let pages : Collection :=
      ⟨.base, [.record [("title", .text "about")] [], page], DefaultFinders.ofNames ["title", "body"]⟩
    let key : Derivation := .plural (.list [.text "news"]) (.text "news") rfl
    key.Selects ∧ pages.derive key = .ok (pages.withRecords [page]).toValue ∧
      (pages.withRecords [page]).derive key = .ok (pages.withRecords [page]).toValue := by
  intro page pages key
  have selects : key.Selects := trivial
  have answer : pages.derive key = .ok (pages.withRecords [page]).toValue := rfl
  obtain ⟨records, _, same, again⟩ := selection_idempotent selects answer
  rw [← toValue_inj same] at again
  exact ⟨selects, answer, again⟩

end Collection
end RecordQuery
