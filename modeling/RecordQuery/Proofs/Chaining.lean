import RecordQuery.Proofs.Brackets
import RecordQuery.Proofs.NamedCriteria
/-!
Searching what a search has found.

A search with one mapping and then with another one answers exactly if a search with both of them at once
does, and it answers the same (`chaining_is_conjunction`). A search is the conjunction of its entries, and an
entry is put to a record only if no entry before it refuses the record; whether that entry belongs to a
search before or to the same one makes no difference (`answered_tests_append`). Which entries come first
matters only where a check can fail: without such a check, all orders find the same records
(`Sought.agree`).
-/

namespace RecordQuery
namespace Search

section
variable [Answers] {record : Value} {s t : Search}

/-! ## One search behind another one -/

theorem accepts_append :
    accepts record (s ++ t) = accepts record s >>= fun b => if b then accepts record t else pure false := by
  induction s with
  | nil => rfl
  | cons entry s ih =>
    rw [List.cons_append, accepts_cons, accepts_cons, ih, Run.bind_assoc]
    congr 1
    funext b
    cases b <;> rfl

theorem passes_tests_append :
    Scan.passes (s ++ t).tests record = (Scan.passes s.tests record && Scan.passes t.tests record) := by
  rw [passes_tests, passes_tests, passes_tests, List.all_append]

theorem answered_tests_append :
    Scan.Answered (s ++ t).tests record ↔
      Scan.Answered s.tests record ∧ (Scan.passes s.tests record → Scan.Answered t.tests record) := by
  have split : ((s ++ t).tests record).outcome =
      (accepts record s).outcome >>= fun b => (if b then accepts record t else pure false).outcome := by
    rw [tests, accepts_append, Run.outcome_bind]
  unfold Scan.Answered Scan.passes
  rw [split]
  simp only [tests]
  cases (accepts record s).outcome with
  | error e => simp [bind, Except.bind]
  | ok b => cases b <;> simp [bind, Except.bind]

/-! ## Whether a record satisfies expected values -/

def meets (record : Value) (pair : String × Value) : Bool :=
  match Matcher.ofExpected pair.2 with
  | .ok m => Scan.passes (checkEntry record) (pair.1, m)
  | .error _ => false

theorem passes_of_denotes {attributes : List (String × Value)}
    (h : List.Forall₂ Denotes (Criteria.named attributes) s) :
    Scan.passes s.tests record = attributes.all (meets record) := by
  rw [passes_tests]
  induction attributes generalizing s with
  | nil => cases h; rfl
  | cons pair attributes ih =>
    obtain ⟨entry, rest, here, others, rfl⟩ := List.forall₂_cons_left_iff.1 h
    have name : pair.1 = entry.1 := Except.ok.inj here.name
    have classified : Matcher.ofExpected pair.2 = .ok entry.2 := here.matcher
    rw [List.all_cons, List.all_cons, ih others, meets, classified, name]

end
end Search

namespace Collection

section
variable [Answers] {c : Collection} {entries : List (Value × Value)} {m m₁ m₂ : Value}
  {attributes a a₁ a₂ : List (String × Value)}

def findAllThen (c : Collection) (first second : Value) : Run Collection := do
  (← c.findAll first []).findAll second []

theorem findAll_mapping_eq_ok (given : IsMapping entries m) {found : Collection} :
    (c.findAll m []).outcome = .ok found ↔
      ∃ s, Search.ofEntries entries = .ok s ∧ (∀ r ∈ c.records, Scan.Answered s.tests r) ∧
        found = c.withRecords (c.records.filter (Scan.passes s.tests)) := by
  have predicate : (Criteria.predicate m []).outcome = (Search.ofEntries entries).map .search := by
    rw [Criteria.predicate_of_mapping given]
    exact Criteria.outcome_ofEntries entries
  cases made : Search.ofEntries entries with
  | error e =>
    rw [made] at predicate
    have failed : (c.findAll m []).outcome = .error e := Run.outcome_bind_of_error predicate _
    simp [failed]
  | ok s =>
    rw [made] at predicate
    rw [findAll_of_predicate predicate, allWhere_eq_ok]
    constructor
    · intro h
      exact ⟨s, rfl, h⟩
    · intro ⟨s', same, h⟩
      cases same
      exact h

theorem findAll_mapping_eq_error (given : IsMapping entries m) {e : Failure}
    (failed : Search.ofEntries entries = .error e) : (c.findAll m []).outcome = .error e := by
  apply Run.outcome_bind_of_error
  rw [Criteria.predicate_of_mapping given]
  exact (Criteria.outcome_ofEntries entries).trans (by rw [failed]; rfl)

theorem findAll_named_eq_ok (given : IsMapping (Criteria.named a) m) {found : Collection} :
    (c.findAll m []).outcome = .ok found ↔
      ∃ s : Search, List.Forall₂ Search.Denotes (Criteria.named a) s ∧
        (∀ r ∈ c.records, Scan.Answered s.tests r) ∧
        found = c.withRecords (c.records.filter (Scan.passes s.tests)) := by
  rw [findAll_mapping_eq_ok given]
  simp only [Search.ofEntries_named_eq_ok (distinctKeys_named.1 given.distinct)]

/-! ## Two searches and both at once -/

/-- Two searches in a row answer exactly if the search with all entries at once does, and the same. -/
theorem findAllThen_eq_ok (given₁ : IsMapping (Criteria.named a₁) m₁)
    (given₂ : IsMapping (Criteria.named a₂) m₂) (given : IsMapping (Criteria.named (a₁ ++ a₂)) m)
    {found : Collection} :
    (c.findAllThen m₁ m₂).outcome = .ok found ↔ (c.findAll m []).outcome = .ok found := by
  have both : Criteria.named (a₁ ++ a₂) = Criteria.named a₁ ++ Criteria.named a₂ := List.map_append
  have filtered (s t : Search) : (c.records.filter (Scan.passes s.tests)).filter (Scan.passes t.tests) =
      c.records.filter (Scan.passes (s ++ t).tests) := by
    rw [List.filter_filter]
    congr 1
    funext r
    rw [Search.passes_tests_append, Bool.and_comm]
  have answered_iff (s t : Search) : (∀ r ∈ c.records, Scan.Answered (s ++ t).tests r) ↔
      (∀ r ∈ c.records, Scan.Answered s.tests r) ∧
        ∀ r ∈ c.records.filter (Scan.passes s.tests), Scan.Answered t.tests r := by
    simp only [Search.answered_tests_append, List.mem_filter]
    exact ⟨fun h => ⟨fun r hr => (h r hr).1, fun r hr => (h r hr.1).2 hr.2⟩,
      fun h r hr => ⟨h.1 r hr, fun passes => h.2 r ⟨hr, passes⟩⟩⟩
  rw [findAllThen, Run.outcome_bind_eq_ok, findAll_named_eq_ok given, both]
  -- the searches are one after the other, the records left by the first tested by the second
  constructor
  · intro ⟨between, first, second⟩
    obtain ⟨s, hs, answered, rfl⟩ := (findAll_named_eq_ok given₁).1 first
    obtain ⟨t, ht, answered', rfl⟩ := (findAll_named_eq_ok given₂).1 second
    refine ⟨s ++ t, List.rel_append hs ht, (answered_iff s t).2 ⟨answered, answered'⟩, ?_⟩
    rw [← filtered]
    rfl
  · intro ⟨u, hu, answered, same⟩
    obtain ⟨s, t, hs, ht, rfl⟩ := Search.denotes_append.1 hu
    obtain ⟨first, second⟩ := (answered_iff s t).1 answered
    refine ⟨_, (findAll_named_eq_ok given₁).2 ⟨s, hs, first, rfl⟩, ?_⟩
    refine (findAll_named_eq_ok given₂).2 ⟨t, ht, second, ?_⟩
    rw [same, ← filtered]
    rfl

/-! ## Searches with the same attributes in any order -/

def NoCheckFails (c : Collection) (attributes : List (String × Value)) : Prop :=
  ∀ pair ∈ attributes, ∀ m, Matcher.ofExpected pair.2 = .ok m →
    ∀ r ∈ c.records, Scan.Answered (Search.checkEntry r) (pair.1, m)

/-- What searches with some attributes come to if no check fails: the records that meet all of them, or a
failure if one of them cannot be classified. -/
inductive Sought (c : Collection) (attributes : List (String × Value)) : Checked Collection → Prop
  | found (classified : ∀ pair ∈ attributes, ∃ m, Matcher.ofExpected pair.2 = .ok m) :
    Sought c attributes (.ok (c.withRecords (c.records.filter fun r => attributes.all (Search.meets r))))
  | unclassified {pair : String × Value} {cause e : Failure} (listed : pair ∈ attributes)
    (failed : Matcher.ofExpected pair.2 = .error cause) (type : e.kind = .type) :
    Sought c attributes (.error e)

theorem Sought.agree {r r' : Checked Collection} (h : c.Sought a r) (h' : c.Sought attributes r')
    (same : a.Perm attributes) : Agree (r.map toValue) (r'.map toValue) := by
  cases h with
  | found classified =>
    cases h' with
    | found _ =>
      have meets (record : Value) : a.all (Search.meets record) = attributes.all (Search.meets record) :=
        same.all_eq
      simp only [meets]
      exact .refl _
    | unclassified listed failed _ =>
      exact Search.not_unclassified classified (same.mem_iff.2 listed) failed
  | unclassified listed failed type =>
    cases h' with
    | found classified => exact Search.not_unclassified classified (same.mem_iff.1 listed) failed
    | unclassified _ _ type' => exact .failure (type.trans type'.symm)

/-- The ways to search with all of some attributes: at once, or in two searches in a row. -/
inductive SearchesFor (c : Collection) (attributes : List (String × Value)) : Run Collection → Prop
  | once {a : List (String × Value)} {m : Value} (same : a.Perm attributes)
    (given : IsMapping (Criteria.named a) m) : SearchesFor c attributes (c.findAll m [])
  | twice {a₁ a₂ : List (String × Value)} {m₁ m₂ : Value} (same : (a₁ ++ a₂).Perm attributes)
    (given₁ : IsMapping (Criteria.named a₁) m₁) (given₂ : IsMapping (Criteria.named a₂) m₂) :
    SearchesFor c attributes (c.findAllThen m₁ m₂)

theorem sought_findAll (given : IsMapping (Criteria.named a) m) (checked : c.NoCheckFails a) :
    c.Sought a (c.findAll m []).outcome := by
  rcases Search.classified_or_fails a with classified | ⟨pair, listed, cause, fails⟩
  · obtain ⟨s, denoted⟩ := Search.exists_denotes classified
    have answered : ∀ r ∈ c.records, Scan.Answered s.tests r := by
      intro r hr
      apply Search.answered_tests
      intro entry listed
      obtain ⟨pair, listed, name, asked⟩ := Search.exists_of_mem_denoted denoted listed
      have here := checked pair listed entry.2 asked r hr
      rw [name] at here
      exact here
    have found := (findAll_named_eq_ok given).2 ⟨s, denoted, answered, rfl⟩
    have meets : Scan.passes s.tests = fun r => a.all (Search.meets r) :=
      funext fun _ => Search.passes_of_denotes denoted
    rw [found, meets]
    exact .found classified
  · have entry : (Value.text pair.1, pair.2) ∈ Criteria.named a := List.mem_map_of_mem listed
    obtain ⟨e, failed, type⟩ := Search.ofEntries_eq_error_of_mem entry fails
    rw [findAll_mapping_eq_error given failed]
    exact .unclassified listed fails type

theorem sought_findAllThen (given₁ : IsMapping (Criteria.named a₁) m₁)
    (given₂ : IsMapping (Criteria.named a₂) m₂) (checked : c.NoCheckFails (a₁ ++ a₂)) :
    c.Sought (a₁ ++ a₂) (c.findAllThen m₁ m₂).outcome := by
  have first := sought_findAll given₁ fun pair listed => checked pair (List.mem_append_left a₂ listed)
  rw [findAllThen, Run.outcome_bind]
  generalize (c.findAll m₁ []).outcome = r at first
  cases first with
  | unclassified listed failed type => exact .unclassified (List.mem_append_left a₂ listed) failed type
  | found classified₁ =>
    -- the second search looks at fewer records, so no check of it fails either
    have checked₂ : NoCheckFails (c.withRecords (c.records.filter fun r => a₁.all (Search.meets r))) a₂ :=
      fun pair listed m asked r hr =>
        checked pair (List.mem_append_right a₁ listed) m asked r (List.mem_of_mem_filter hr)
    have second := sought_findAll given₂ checked₂
    show Sought c (a₁ ++ a₂) (findAll _ m₂ []).outcome
    generalize (findAll _ m₂ []).outcome = r at second
    cases second with
    | unclassified listed failed type => exact .unclassified (List.mem_append_right a₁ listed) failed type
    | found classified₂ =>
      have both : (c.records.filter fun r => a₁.all (Search.meets r)).filter
          (fun r => a₂.all (Search.meets r)) = c.records.filter fun r => (a₁ ++ a₂).all (Search.meets r) := by
        rw [List.filter_filter]
        congr 1
        funext r
        rw [List.all_append, Bool.and_comm]
      have classified : ∀ pair ∈ a₁ ++ a₂, ∃ m, Matcher.ofExpected pair.2 = .ok m := by
        intro pair listed
        rcases List.mem_append.1 listed with listed | listed
        · exact classified₁ pair listed
        · exact classified₂ pair listed
      have found := Sought.found (c := c) classified
      rw [← both] at found
      exact found

theorem NoCheckFails.perm (h : c.NoCheckFails attributes) (same : a.Perm attributes) :
    c.NoCheckFails a :=
  fun pair listed => h pair (same.mem_iff.1 listed)

theorem SearchesFor.sought {r : Run Collection} (h : c.SearchesFor attributes r)
    (checked : c.NoCheckFails attributes) :
    ∃ a, a.Perm attributes ∧ c.Sought a r.outcome := by
  cases h with
  | once same given => exact ⟨_, same, sought_findAll given (checked.perm same)⟩
  | twice same given₁ given₂ =>
    exact ⟨_, same, sought_findAllThen given₁ given₂ (checked.perm same)⟩

/-! ## Chaining is conjunction -/

/-- What searching with one mapping and then with another one comes to. -/
structure IsConjunction (c : Collection) (a₁ a₂ : List (String × Value)) (m₁ m₂ : Value) : Prop where
  /-- It answers exactly if the search with both mappings merged does, and the same: the same records in the
  same order, in a collection with the same default finders. -/
  chained : ∀ found, (c.findAllThen m₁ m₂).outcome = .ok found ↔
    (c.findAll (.dict (mergeEntries (Criteria.named a₁) (Criteria.named a₂))) []).outcome = .ok found
  /-- If no check fails, it does not matter in which order the entries are and which search comes first. -/
  order_free : c.NoCheckFails (a₁ ++ a₂) → ∀ r r', c.SearchesFor (a₁ ++ a₂) r →
    c.SearchesFor (a₁ ++ a₂) r' → Agree (r.outcome.map toValue) (r'.outcome.map toValue)

/-- Two searches with no name in common are, one behind the other, the search for both. -/
theorem chaining_is_conjunction (given₁ : IsMapping (Criteria.named a₁) m₁)
    (given₂ : IsMapping (Criteria.named a₂) m₂) (apart : ∀ name ∈ a₁.map (·.1), name ∉ a₂.map (·.1)) :
    c.IsConjunction a₁ a₂ m₁ m₂ where
  chained := by
    have distinct : DistinctKeys (Criteria.named (a₁ ++ a₂)) := by
      rw [distinctKeys_named, List.map_append, List.nodup_append]
      refine ⟨distinctKeys_named.1 given₁.distinct, distinctKeys_named.1 given₂.distinct, ?_⟩
      intro name listed₁ name' listed₂ same
      subst same
      exact apart name listed₁ listed₂
    have merged : mergeEntries (Criteria.named a₁) (Criteria.named a₂) = Criteria.named (a₁ ++ a₂) := by
      have both : Criteria.named (a₁ ++ a₂) = Criteria.named a₁ ++ Criteria.named a₂ := List.map_append
      rw [both] at distinct ⊢
      exact mergeEntries_of_distinct distinct
    intro found
    rw [merged]
    exact findAllThen_eq_ok given₁ given₂ ⟨.inl rfl, distinct⟩
  order_free := by
    intro checked r r' h h'
    obtain ⟨a, same, sought⟩ := h.sought checked
    obtain ⟨a', same', sought'⟩ := h'.sought checked
    exact sought.agree sought' (same.trans same'.symm)

end

/-- A record that the first search refuses and that cannot be checked by the second one: the search with
both finds what the two searches in a row do. -/
theorem chained_name_and_age :
    let ann (age : Int) : Value := .record [("name", .text "ann"), ("age", .int age)] []
    let bob : Value := .record [("name", .text "bob")] [("age", .value)]
    let people : Collection := ⟨.base, [ann 30, bob, ann 22], .none⟩
    let both : Value := .dict [(.text "name", .text "ann"), (.text "age", .int 30)]
    (people.findAll both []).outcome = .ok (people.withRecords [ann 30]) := by
  intro ann bob people both
  let name : List (String × Value) := [("name", .text "ann")]
  let age : List (String × Value) := [("age", .int 30)]
  have given₁ : IsMapping (Criteria.named name) (.dict [(.text "name", .text "ann")]) :=
    ⟨.inl rfl, List.pairwise_singleton _ _⟩
  have given₂ : IsMapping (Criteria.named age) (.dict [(.text "age", .int 30)]) :=
    ⟨.inl rfl, List.pairwise_singleton _ _⟩
  have conjunction : people.IsConjunction name age _ _ :=
    chaining_is_conjunction given₁ given₂ (by decide)
  exact (conjunction.chained _).1 rfl

end Collection
end RecordQuery
