import RecordQuery.Proofs.Chaining
import RecordQuery.Proofs.FinderNames
import RecordQuery.Proofs.NameCoherence
import RecordQuery.Proofs.NameGrammar
/-!
Records are found by the values of their own attributes.

Whichever matcher a value asks for, the matcher holds the value as it is and accepts first what equals it
(`Matcher.exists_ofExpected`). So a search with values that a record has keeps the record (`mem_findAll_of_own`),
also where the value would not pass the check of its matcher: a class is no instance of itself, and a pattern need
not be found in its own text. A finder compares literally, and finds the record by matchers and by patterns over
bytes as well (`mem_query_of_own`).
-/

namespace RecordQuery

/-- A value that a search asks for as it is: a matcher asks for the value that it holds, and a pattern over bytes
is refused. -/
structure Value.Askable (v : Value) : Prop where
  no_matcher : ∀ m, v ≠ .matcher m
  text_only : ∀ source, v ≠ .bytesPattern source

theorem Matcher.exists_ofExpected {v : Value} (h : v.Askable) : ∃ m, ofExpected v = .ok m ∧ m.expected = v := by
  unfold ofExpected
  split
  · exact absurd rfl (h.no_matcher _)
  · exact absurd rfl (h.text_only _)
  · exact ⟨_, rfl, rfl⟩
  · exact ⟨_, rfl, rfl⟩
  · exact ⟨_, rfl, rfl⟩
  · refine ⟨_, rfl, ?_⟩
    split <;> rfl

theorem Criteria.predicate_of_value {a : String} {v : Value} {m : Matcher} (made : Matcher.ofExpected v = .ok m) :
    (predicate (.dict [(.text a, v)]) []).outcome = .ok (.search [(a, m)]) := by
  have search : Search.ofEntries (named [(a, v)]) = .ok [(a, m)] :=
    (Search.ofEntries_named_eq_ok (by simp)).2 (.cons ⟨rfl, made⟩ .nil)
  exact (outcome_ofEntries _).trans (congrArg (Except.map Predicate.search) search)

theorem Value.orNone_of_ne_missing {v : Value} (h : v ≠ .missing) : v.orNone = v := by
  unfold orNone
  split
  · exact absurd rfl h
  · rfl

theorem DynamicName.reach_of_finder? {a : String} {n : DynamicName} (h : finder? ("find_all_by_" ++ a) = some n) :
    n.reach = .all := by
  obtain ⟨rest, whole⟩ := begins_of_finder? h
  have begins : ("find_all_by_" ++ a).toList = Reach.start .all ++ a.toList := String.toList_append
  cases reach : n.reach with
  | all => rfl
  | single =>
    rw [begins, reach] at whole
    exact absurd whole.symm (start_append_ne _ _)

section
variable [Answers]

/-- A record has an attribute: its value is read under the name, does not stand for a missing one and equals
itself. -/
structure Value.Owns (record : Value) (pair : String × Value) : Prop where
  read : (record.read pair.1).outcome = .ok pair.2
  present : pair.2 ≠ .missing
  equal : pair.2.isEqual pair.2 = .ok true

section
variable {record : Value} {pair : String × Value}

theorem Value.Owns.checked (h : record.Owns pair) {m : Matcher} (holds : m.expected = pair.2) :
    (Search.checkEntry record (pair.1, m)).outcome = .ok true := by
  rw [Search.checkEntry, Run.outcome_bind_of_ok h.read, orNone_of_ne_missing h.present]
  exact Matcher.accepts_of_equal (holds ▸ h.equal)

theorem Value.Owns.met (h : record.Owns pair) (askable : pair.2.Askable) : Search.meets record pair = true := by
  obtain ⟨m, made, holds⟩ := Matcher.exists_ofExpected askable
  rw [Search.meets, made]
  exact Scan.passes_eq_true.2 (h.checked holds)

theorem Value.Owns.equals (h : record.Owns pair) : (record.attributeIs pair).outcome = .ok true := by
  rw [attributeIs, Run.outcome_bind_of_ok h.read, orNone_of_ne_missing h.present, Run.outcome_ofChecked]
  exact h.equal

end

end

namespace Collection

section
variable [Answers] {c : Collection} {r : Value}

/-! ## Records with several attributes -/

theorem mem_findAll_of_own {attributes : List (String × Value)} {criteria : Value} (listed : r ∈ c.records)
    (own : ∀ pair ∈ attributes, r.Owns pair) (askable : ∀ pair ∈ attributes, pair.2.Askable)
    (given : IsMapping (Criteria.named attributes) criteria) {found : Collection}
    (h : (c.findAll criteria []).outcome = .ok found) : r ∈ found.records := by
  obtain ⟨s, denoted, _, rfl⟩ := (findAll_named_eq_ok given).1 h
  have kept : Scan.passes s.tests r = true := by
    rw [Search.passes_of_denotes denoted, List.all_eq_true]
    exact fun pair hp => (own pair hp).met (askable pair hp)
  exact List.mem_filter.2 ⟨listed, kept⟩

theorem mem_query_of_own {name : String} {n : DynamicName} {arguments : List Value} (listed : r ∈ c.records)
    (finder : DynamicName.finder? name = some n) (all : n.reach = .all)
    (count : arguments.length = n.attributes.length) (own : ∀ pair ∈ n.attributes.zip arguments, r.Owns pair)
    {answer : Value} (h : (c.query name arguments).outcome = .ok answer) :
    ∃ found : Collection, answer = found.toValue ∧ r ∈ found.records := by
  rw [query_of_finder? finder] at h
  have picked := (finds_callFinder count).answers answer h
  rw [all] at picked
  refine ⟨_, picked, List.mem_filter.2 ⟨listed, List.all_eq_true.2 fun pair hp => ?_⟩⟩
  exact Scan.passes_eq_true.2 (own pair (Search.mem_of_mem_lastUnderName hp)).equals

/-! ## Records with one attribute -/

/-- What finds a record by an attribute that it has. -/
structure FindsOwn (c : Collection) (r : Value) (a : String) (v : Value) : Prop where
  by_search : v.Askable → ∀ found, (c.findAll (.dict [(.text a, v)]) []).outcome = .ok found → r ∈ found.records
  /-- The search fails only as the check of a record by the value does. -/
  search_fails : v.Askable → ∀ e, (c.findAll (.dict [(.text a, v)]) []).outcome = .error e →
    ∃ m, Matcher.ofExpected v = .ok m ∧ m.expected = v ∧ ∃ other ∈ c.records, ∃ cause,
      (Search.checkEntry other (a, m)).outcome = .error cause ∧ Scan.failure cause = e
  by_finder : ∀ n, DynamicName.finder? ("find_all_by_" ++ a) = some n → n.attributes = [a] →
    ∀ answer, (c.query ("find_all_by_" ++ a) [v]).outcome = .ok answer →
      ∃ found : Collection, answer = found.toValue ∧ r ∈ found.records
  /-- The finder fails only as the comparison of a record with the value does. -/
  finder_fails : ∀ n, DynamicName.finder? ("find_all_by_" ++ a) = some n → n.attributes = [a] →
    ∀ e, (c.query ("find_all_by_" ++ a) [v]).outcome = .error e → ∃ other ∈ c.records, ∃ cause,
      (other.attributeIs (a, v)).outcome = .error cause ∧ Scan.failure cause = e

/-- A record is found by each of its attributes. -/
theorem found_by_own_value {a : String} {v : Value} (listed : r ∈ c.records) (own : r.Owns (a, v)) :
    c.FindsOwn r a v where
  by_search := by
    intro askable found h
    have given : IsMapping (Criteria.named [(a, v)]) (.dict [(.text a, v)]) :=
      ⟨.inl rfl, List.pairwise_singleton _ _⟩
    exact mem_findAll_of_own listed (by simpa using own) (by simpa using askable) given h
  search_fails := by
    intro askable e h
    obtain ⟨m, made, holds⟩ := Matcher.exists_ofExpected askable
    refine ⟨m, made, holds, ?_⟩
    have predicate := Criteria.predicate_of_value (a := a) made
    -- the search is well formed, so a failure is that of checking some record for its only entry
    rcases findAll_eq_error h with failed | ⟨p, hp, other, listed, cause, failed, same⟩
    · rw [predicate] at failed
      cases failed
    · rw [predicate] at hp
      cases hp
      obtain ⟨entry, asked, failed⟩ := Search.exists_of_tests_eq_error failed
      rw [List.mem_singleton.1 asked] at failed
      exact ⟨other, listed, cause, failed, same⟩
  by_finder := by
    intro n finder names answer h
    refine mem_query_of_own listed finder (DynamicName.reach_of_finder? finder) (by simp [names]) ?_ h
    simpa [names] using own
  finder_fails := by
    intro n finder names e h
    rw [query_of_finder? finder] at h
    obtain ⟨other, listed, pair, asked, cause, failed, same⟩ :=
      (finds_callFinder (by simp [names])).fails e h
    -- the name has one attribute, so the failed check is the one of the value
    have asked := Search.mem_of_mem_lastUnderName asked
    rw [names, List.zip_cons_cons, List.zip_nil_left, List.mem_singleton] at asked
    exact ⟨other, listed, cause, asked ▸ failed, same⟩

end

/-- A record with a class for an attribute, which is no instance of itself. -/
theorem found_by_own_class :
    let test : Value := .record [("kind", .kind .int)] []
    let tests : Collection := ⟨.base, [test, .record [("kind", .text "int")] []], .none⟩
    ∃ found, (tests.findAll (.dict [(.text "kind", .kind .int)]) []).outcome = .ok found ∧ test ∈ found.records := by
  intro test tests
  have own : test.Owns ("kind", .kind .int) := ⟨rfl, nofun, rfl⟩
  have finds : tests.FindsOwn test "kind" (.kind .int) := found_by_own_value List.mem_cons_self own
  exact ⟨_, rfl, finds.by_search ⟨nofun, nofun⟩ _ rfl⟩

-- a matcher is looked for by the value that it holds, so that it does not find itself
example :
    let rule : Value := .matcher (.literal (.int 1))
    let rules : Collection := ⟨.base, [.record [("rule", rule)] []], .none⟩
    (rules.findAll (.dict [(.text "rule", rule)]) []).outcome = .ok (rules.withRecords []) := rfl

end Collection
end RecordQuery
