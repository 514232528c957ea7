import RecordQuery.Proofs.FailureKinds
/-!
What the lookups come to: how they fail, and where no record matches.

A lookup goes through criteria of its own (`criteriaFor`). A key that can be looked up fails as one of the
searches with them does (`lookup_fails`, `lookupAll_fails`), and not for an unsupported key unless a record
does (`LookupFails.supported`). Nothing found is an answer of both lookups (`lookup_of_matchedByNone`,
`lookupAll_of_matchedByNone`).
-/

namespace RecordQuery

/-! ## Failures of criteria -/

theorem Matcher.kind_of_ofExpected_eq_error {expected : Value} {e : Failure}
    (h : ofExpected expected = .error e) : e.kind = .type := by
  unfold ofExpected at h
  -- only patterns over bytes cannot be classified
  split at h <;> cases h
  rfl

theorem Search.kind_of_classify_eq_error {entries : List (Value × Value)} {e : Failure}
    (h : classify entries = .error e) : e.kind = .type := by
  induction entries with
  | nil => cases h
  | cons entry rest ih =>
    rcases Checked.bind_eq_error.1 h with here | ⟨m, _, h⟩
    · exact Matcher.kind_of_ofExpected_eq_error here
    · rcases Checked.bind_eq_error.1 h with behind | ⟨_, _, done⟩
      · exact ih behind
      · cases done

theorem Search.kind_of_ofEntries_eq_error {entries : List (Value × Value)} {e : Failure}
    (h : ofEntries entries = .error e) : e.kind ≠ .unsupportedKey := by
  rcases Checked.bind_eq_error.1 h with unclassified | ⟨classified, _, h⟩
  · rw [kind_of_classify_eq_error unclassified]
    decide
  · dsimp only at h
    split at h
    · cases h
    · cases h
      exact nofun

namespace Criteria

theorem failsOnly_ofEntries (entries : List (Value × Value)) :
    (ofEntries entries).FailsOnly fun e => e.kind ≠ .unsupportedKey := by
  apply Run.FailsOnly.bind
  · exact Run.FailsOnly.ofChecked fun e he => Search.kind_of_ofEntries_eq_error he
  · intro s _ e he
    cases he

theorem failsOnly_predicate (criteria : Value) (attributes : List (String × Value)) :
    (predicate criteria attributes).FailsOnly fun e => e.kind ≠ .unsupportedKey := by
  unfold predicate
  split
  · exact failsOnly_ofEntries _
  · split
    · exact nofun
    · exact failsOnly_ofEntries _
  · exact failsOnly_ofEntries _
  · exact failsOnly_ofEntries _
  · split
    · split
      · exact nofun
      · exact Run.FailsOnly.fail nofun
    · exact Run.FailsOnly.fail nofun

end Criteria

namespace Collection

/-! ## The criteria of a lookup -/

section
variable {c : Collection} {key : Value}

/-- The criteria that looking up a key goes through: the key itself if it is a query, and else one for each
default finder. -/
def criteriaFor (c : Collection) (key : Value) : List Value :=
  if key.isQuery then [key] else c.finders.names.map (finderEntry · key)

theorem mem_criteriaFor_of_query (h : key.isQuery) : key ∈ c.criteriaFor key := by
  rw [criteriaFor, if_pos h]
  exact List.mem_singleton_self key

theorem finderEntry_mem_criteriaFor (h : key.isQuery = false) {finder : String}
    (hf : finder ∈ c.finders.names) : finderEntry finder key ∈ c.criteriaFor key := by
  rw [criteriaFor, h]
  exact List.mem_map.2 ⟨finder, hf, rfl⟩

theorem not_canLookUp : ¬ c.CanLookUp key ↔ key.isQuery = false ∧ c.finders.names = [] := by
  simp [CanLookUp]

theorem requireFinders_of_canLookUp (plain : key.isQuery = false) (can : c.CanLookUp key) :
    c.requireFinders key = .ok c.finders.names := by
  rcases can with query | some_names
  · rw [plain] at query
    cases query
  · rw [requireFinders_eq, some_names]
    rfl

theorem requireFinders_of_not_canLookUp (cannot : ¬ c.CanLookUp key) :
    c.requireFinders key = .error (refusal key) := by
  rw [requireFinders_eq, (not_canLookUp.1 cannot).2]
  rfl

end

/-! ## Lookups through the default finders -/

section
variable [Answers] {c : Collection} {key : Value}

theorem lookup_of_canLookUp (plain : key.isQuery = false) (can : c.CanLookUp key) :
    (c.lookup key).outcome = (c.lookupAmong key c.finders.names).outcome :=
  lookup_of_finders plain (requireFinders_of_canLookUp plain can)

theorem lookupAll_of_canLookUp (plain : key.isQuery = false) (can : c.CanLookUp key) :
    (c.lookupAll key).outcome = (c.lookupAllAmong key c.finders.names).outcome := by
  unfold lookupAll
  rw [plain, requireFinders_of_canLookUp plain can]
  exact Run.outcome_bind_of_ok rfl _

theorem lookup_of_not_canLookUp (cannot : ¬ c.CanLookUp key) :
    (c.lookup key).outcome = .error (refusal key) := by
  rw [lookup, (not_canLookUp.1 cannot).1, requireFinders_of_not_canLookUp cannot]
  rfl

theorem lookupAll_of_not_canLookUp (cannot : ¬ c.CanLookUp key) :
    (c.lookupAll key).outcome = .error (refusal key) := by
  rw [lookupAll, (not_canLookUp.1 cannot).1, requireFinders_of_not_canLookUp cannot]
  rfl

theorem canLookUp_of_lookupAll {found : Collection} (h : (c.lookupAll key).outcome = .ok found) :
    c.CanLookUp key := by
  by_cases can : c.CanLookUp key
  · exact can
  · rw [lookupAll_of_not_canLookUp can] at h
    cases h

/-! ## Failures of lookups -/

/-- A failure of one of the searches that looking up a key goes through. -/
def LookupFails (c : Collection) (key : Value) (e : Failure) : Prop :=
  ∃ criteria ∈ c.criteriaFor key, c.FailsAs criteria [] e

theorem lookupAmong_fails (plain : key.isQuery = false) {names : List String}
    (among : ∀ finder ∈ names, finder ∈ c.finders.names) :
    (c.lookupAmong key names).FailsOnly (c.LookupFails key) := by
  induction names with
  | nil => exact Run.FailsOnly.pure _
  | cons finder rest ih =>
    obtain ⟨hf, others⟩ := List.forall_mem_cons.1 among
    apply Run.FailsOnly.bind
    · intro e failed
      exact ⟨_, finderEntry_mem_criteriaFor plain hf, findBy_eq_error failed⟩
    · intro record _
      cases record with
      | none => exact ih others
      | _ => exact nofun

theorem lookupAllAmong_fails (plain : key.isQuery = false) {names : List String}
    (among : ∀ finder ∈ names, finder ∈ c.finders.names) :
    (c.lookupAllAmong key names).FailsOnly (c.LookupFails key) := by
  induction names with
  | nil =>
    intro e failed
    rw [lookupAllAmong_nil] at failed
    cases failed
  | cons finder rest ih =>
    obtain ⟨hf, others⟩ := List.forall_mem_cons.1 among
    apply Run.FailsOnly.bind
    · intro e failed
      exact ⟨_, finderEntry_mem_criteriaFor plain hf, findAll_eq_error failed⟩
    · intro found _
      split
      · exact ih others
      · intro e failed
        cases failed

theorem lookup_fails (can : c.CanLookUp key) : (c.lookup key).FailsOnly (c.LookupFails key) := by
  intro e failed
  cases query : key.isQuery with
  | true =>
    rw [lookup_of_query query] at failed
    exact ⟨key, mem_criteriaFor_of_query query, findBy_eq_error failed⟩
  | false =>
    rw [lookup_of_canLookUp query can] at failed
    exact lookupAmong_fails query (fun _ => id) e failed

theorem lookupAll_fails (can : c.CanLookUp key) :
    (c.lookupAll key).FailsOnly (c.LookupFails key) := by
  intro e failed
  cases query : key.isQuery with
  | true =>
    rw [lookupAll_of_query query] at failed
    exact ⟨key, mem_criteriaFor_of_query query, findAll_eq_error failed⟩
  | false =>
    rw [lookupAll_of_canLookUp query can] at failed
    exact lookupAllAmong_fails query (fun _ => id) e failed

/-- No record fails to be checked when a key is looked up: reading it, comparing it and asking a callable
about it all have an answer. -/
def Checkable (c : Collection) (key : Value) : Prop :=
  ∀ criteria ∈ c.criteriaFor key, ∀ p, (Criteria.predicate criteria []).outcome = .ok p →
    ∀ r ∈ c.records, Scan.Answered p.holds r

theorem LookupFails.supported {e : Failure} (failed : c.LookupFails key e) (h : c.Checkable key) :
    e.kind ≠ .unsupportedKey := by
  obtain ⟨criteria, listed, invalid | ⟨p, hp, r, hr, cause, unchecked, _⟩⟩ := failed
  · exact Criteria.failsOnly_predicate criteria [] e invalid
  · obtain ⟨b, answered⟩ := h criteria listed p hp r hr
    rw [answered] at unchecked
    cases unchecked

/-! ## Where nothing matches -/

def MatchedByNone (c : Collection) (key : Value) : Prop :=
  ∀ criteria ∈ c.criteriaFor key, ∃ p, (Criteria.predicate criteria []).outcome = .ok p ∧
    ∀ r ∈ c.records, Scan.Refused p.holds r

theorem findAll_of_matchedByNone (h : c.MatchedByNone key) {criteria : Value}
    (listed : criteria ∈ c.criteriaFor key) :
    (c.findAll criteria []).outcome = .ok (c.withRecords []) := by
  obtain ⟨p, hp, refused⟩ := h criteria listed
  rw [findAll_of_predicate hp, allWhere_eq_ok]
  refine ⟨fun r hr => (refused r hr).answered, ?_⟩
  have dropped : c.records.filter (Scan.passes p.holds) = [] := by
    rw [List.filter_eq_nil_iff]
    intro r hr passes
    have refused : (p.holds r).outcome = .ok false := refused r hr
    rw [Scan.passes_eq_true.1 passes] at refused
    cases refused
  rw [dropped]

theorem lookupAllAmong_of_matchesNone {names : List String} (h : ∀ f ∈ names, c.MatchesNone key f) :
    (c.lookupAllAmong key names).outcome = .ok (c.withRecords []) := by
  induction names with
  | nil => exact lookupAllAmong_nil
  | cons finder rest ih =>
    obtain ⟨none, others⟩ := List.forall_mem_cons.1 h
    calc (c.lookupAllAmong key (finder :: rest)).outcome
        = (c.lookupAllAmong key rest).outcome := lookupAllAmong_cons_of_none none
      _ = .ok (c.withRecords []) := ih others

theorem lookupAll_of_matchedByNone (h : c.MatchedByNone key) (can : c.CanLookUp key) :
    (c.lookupAll key).outcome = .ok (c.withRecords []) := by
  cases query : key.isQuery with
  | true =>
    rw [lookupAll_of_query query]
    exact findAll_of_matchedByNone h (mem_criteriaFor_of_query query)
  | false =>
    rw [lookupAll_of_canLookUp query can]
    refine lookupAllAmong_of_matchesNone fun finder hf => ?_
    exact findAll_of_matchedByNone h (finderEntry_mem_criteriaFor query hf)

theorem lookup_of_matchedByNone (h : c.MatchedByNone key) (can : c.CanLookUp key) :
    (c.lookup key).outcome = .ok .none :=
  (lookup_of_lookupAll (lookupAll_of_matchedByNone h can)).head (.inr nofun)

end
end Collection
end RecordQuery
