import RecordQuery.Collection.Dispatch
import RecordQuery.Function.Call
import RecordQuery.Proofs.Finding
import RecordQuery.Proofs.NameForms
import RecordQuery.Proofs.Searching
/-!
What a finder name called with arguments answers.

The attributes and the arguments make pairs, and a pair is looked for by equality, whatever kind of value
the argument is (`Finds`). The pairs go through a mapping on the way, so that of an attribute that is named
again only the last argument counts (`query_finder_name`). The finder compares every argument exactly if
no attribute is named twice.
-/

namespace RecordQuery

/-- Whether the attribute of a record equals the value of a pair; nothing stands for an attribute that is
missing. -/
def Value.attributeIs [Answers] (record : Value) (pair : String × Value) : Run Bool := do
  let actual ← record.read pair.1
  Run.ofChecked (pair.2.isEqual actual.orNone)

namespace Search

def literals (pairs : List (String × Value)) : Search := pairs.map fun p => (p.1, .literal p.2)

section
variable [Answers] {record : Value} {pairs : List (String × Value)} {s : Search}

theorem outcome_accepts_literal (v actual : Value) :
    ((Matcher.literal v).accepts actual).outcome = v.isEqual actual := by
  rw [Matcher.accepts, Run.outcome_bind, Run.outcome_ofChecked]
  show (v.isEqual actual >>= _) = _
  cases v.isEqual actual with
  | error e => rfl
  | ok b => cases b <;> rfl

theorem outcome_checkEntry_literal (pair : String × Value) :
    (checkEntry record (pair.1, .literal pair.2)).outcome = (record.attributeIs pair).outcome := by
  rw [checkEntry, Value.attributeIs, Run.outcome_bind, Run.outcome_bind]
  congr 1
  funext actual
  rw [outcome_accepts_literal, Run.outcome_ofChecked]

theorem passes_tests_of_literals (hs : ∀ e, e ∈ s ↔ e ∈ literals pairs) :
    Scan.passes s.tests record = pairs.all (Scan.passes record.attributeIs) := by
  have same (pair : String × Value) :
      Scan.passes (checkEntry record) (pair.1, .literal pair.2) =
        Scan.passes record.attributeIs pair := by
    unfold Scan.passes
    rw [outcome_checkEntry_literal]
  rw [passes_tests, Bool.eq_iff_iff, List.all_eq_true, List.all_eq_true]
  constructor
  · intro h pair hp
    rw [← same]
    exact h _ ((hs _).2 (List.mem_map.2 ⟨pair, hp, rfl⟩))
  · intro h e he
    obtain ⟨pair, hp, rfl⟩ := List.mem_map.1 ((hs e).1 he)
    rw [same]
    exact h pair hp

theorem exists_pair_of_tests_eq_error (hs : ∀ e, e ∈ s ↔ e ∈ literals pairs) {e : Failure}
    (h : (s.tests record).outcome = .error e) :
    ∃ pair ∈ pairs, (record.attributeIs pair).outcome = .error e := by
  obtain ⟨entry, hentry, he⟩ := exists_of_tests_eq_error h
  obtain ⟨pair, hp, rfl⟩ := List.mem_map.1 ((hs entry).1 hentry)
  rw [outcome_checkEntry_literal] at he
  exact ⟨pair, hp, he⟩

end
end Search

/-! ## The search that a finder makes -/

def finderSearch (attributes : List String) (arguments : List Value) : Search :=
  Search.putAll [] (Search.literals (attributes.zip arguments))

theorem finderCriteria_eq (attributes : List String) (arguments : List Value) :
    Collection.finderCriteria attributes arguments =
      .dict (finderSearch attributes arguments).entries := by
  have pairs : ((attributes.zip arguments).map fun a =>
      (Value.text a.1, Value.matcher (.literal a.2))) =
        Search.entries (Search.literals (attributes.zip arguments)) := by
    rw [Search.entries, Search.literals, List.map_map]
    rfl
  rw [Collection.finderCriteria, pairs]
  exact congrArg Value.dict (Search.mergeEntries_entries _ [])

theorem names_finderSearch_nodup (attributes : List String) (arguments : List Value) :
    (finderSearch attributes arguments).names.Nodup :=
  Search.nodup_putAll List.nodup_nil

theorem mem_finderSearch (attributes : List String) (arguments : List Value) (e : String × Matcher) :
    e ∈ finderSearch attributes arguments ↔
      e ∈ Search.literals (Search.lastUnderName (attributes.zip arguments)) := by
  rw [finderSearch, Search.mem_putAll, Search.literals, Search.lastUnderName_map]
  simp [Search.literals]

theorem Criteria.predicate_entries {s : Search} (h : s.names.Nodup) :
    (Criteria.predicate (.dict s.entries) []).outcome = .ok (.search s) := by
  show (Criteria.ofEntries s.entries).outcome = _
  rw [Criteria.ofEntries, Search.ofEntries_entries h]
  rfl

/-! ## What a finder answers -/

namespace Collection

/-- The answer of a finder that wants certain records: all of them, or the first one if there is one. -/
def pick (c : Collection) (wanted : Value → Bool) : Reach → Value
  | .all => (c.withRecords (c.records.filter wanted)).toValue
  | .single => (c.records.find? wanted).getD .none

section
variable [Answers]

/-- What a finder comes to that looks for the records whose attributes equal the values of all pairs. -/
structure Finds (c : Collection) (reach : Reach) (pairs : List (String × Value))
    (answer : Checked Value) : Prop where
  answers : ∀ v, answer = .ok v → v = c.pick (fun r => pairs.all (Scan.passes r.attributeIs)) reach
  /-- A finder fails only as reading or comparing an attribute of a record does. -/
  fails : ∀ e, answer = .error e → ∃ r ∈ c.records, ∃ pair ∈ pairs, ∃ cause,
    (r.attributeIs pair).outcome = .error cause ∧ Scan.failure cause = e

variable {c : Collection} {s : Search} {pairs : List (String × Value)}

theorem Finds.eq_ok {reach : Reach} {answer : Checked Value} (h : c.Finds reach pairs answer)
    (answered : ∀ r ∈ c.records, ∀ pair ∈ pairs, Scan.Answered r.attributeIs pair) :
    answer = .ok (c.pick (fun r => pairs.all (Scan.passes r.attributeIs)) reach) := by
  cases outcome : answer with
  | ok v => rw [h.answers v outcome]
  | error e =>
    obtain ⟨r, hr, pair, hp, cause, hc, _⟩ := h.fails e outcome
    obtain ⟨b, hb⟩ := answered r hr pair hp
    rw [hb] at hc
    cases hc

theorem pick_tests (hs : ∀ e, e ∈ s ↔ e ∈ Search.literals pairs) (reach : Reach) :
    c.pick (Scan.passes s.tests) reach =
      c.pick (fun r => pairs.all (Scan.passes r.attributeIs)) reach := by
  congr 1
  funext r
  exact Search.passes_tests_of_literals hs

theorem exists_pair_of_failsAs (names : s.names.Nodup)
    (hs : ∀ e, e ∈ s ↔ e ∈ Search.literals pairs) {e : Failure}
    (h : c.FailsAs (.dict s.entries) [] e) :
    ∃ r ∈ c.records, ∃ pair ∈ pairs, ∃ cause,
      (r.attributeIs pair).outcome = .error cause ∧ Scan.failure cause = e := by
  have hp := Criteria.predicate_entries names
  rcases h with h | ⟨p, hq, r, hr, cause, hc, he⟩
  · rw [hp] at h
    cases h
  · rw [hp] at hq
    cases hq
    obtain ⟨pair, hpair, hc⟩ := Search.exists_pair_of_tests_eq_error hs hc
    exact ⟨r, hr, pair, hpair, cause, hc, he⟩

theorem findAll_of_search (names : s.names.Nodup) (hs : ∀ e, e ∈ s ↔ e ∈ Search.literals pairs) :
    c.Finds .all pairs (do return (← c.findAll (.dict s.entries) []).toValue : Run Value).outcome := by
  have hp := Criteria.predicate_entries names
  constructor
  · intro v h
    obtain ⟨found, hf, hv⟩ := Run.outcome_bind_eq_ok.1 h
    cases hv
    rw [findAll_of_predicate hp] at hf
    obtain ⟨_, rfl⟩ := allWhere_eq_ok.1 hf
    exact pick_tests hs .all
  · intro e h
    rcases Run.outcome_bind_eq_error.1 h with h | ⟨_, _, h⟩
    · exact exists_pair_of_failsAs names hs (findAll_eq_error h)
    · cases h

theorem findBy_of_search (names : s.names.Nodup) (hs : ∀ e, e ∈ s ↔ e ∈ Search.literals pairs) :
    c.Finds .single pairs (c.findBy (.dict s.entries) []).outcome := by
  have hp := Criteria.predicate_entries names
  constructor
  · intro v h
    obtain ⟨o, ho, rfl⟩ := (findBy_eq_ok_of_predicate hp).1 h
    rw [Scan.find?_of_outcome_first ho]
    exact pick_tests hs .single
  · intro e h
    exact exists_pair_of_failsAs names hs (findBy_eq_error h)

/-! ## Finder names -/

theorem query_of_finder? {name : String} {n : DynamicName}
    (h : DynamicName.finder? name = some n) (arguments : List Value) :
    c.query name arguments = c.callFinder n arguments := by
  have parsed : DynamicName.parse name = n := by rw [DynamicName.parse, h]; rfl
  have finder : n.isFinder = true := by
    simp [DynamicName.isFinder, (DynamicName.shape_of_finder? h).1]
  rw [query, parsed]
  exact if_pos finder

theorem callFinder_of_count_ne {n : DynamicName} {arguments : List Value}
    (h : arguments.length ≠ n.attributes.length) :
    (c.callFinder n arguments).outcome =
      .error (.argumentCount n.token n.attributes.length arguments.length) := by
  rw [callFinder, if_pos h]
  rfl

/-- A finder called with as many arguments as it has attributes compares each attribute with the last
argument that it is given. -/
theorem finds_callFinder {n : DynamicName} {arguments : List Value}
    (h : arguments.length = n.attributes.length) :
    c.Finds n.reach (Search.lastUnderName (n.attributes.zip arguments))
      (c.callFinder n arguments).outcome := by
  have names := names_finderSearch_nodup n.attributes arguments
  have pairs := mem_finderSearch n.attributes arguments
  rw [callFinder, if_neg fun ne => ne h, finderCriteria_eq]
  cases n.reach with
  | all => exact findAll_of_search names pairs
  | single => exact findBy_of_search names pairs

/-- No attribute of a record fails with an error of type when it is read or compared. -/
def NoTypeErrors (c : Collection) (pairs : List (String × Value)) : Prop :=
  ∀ r ∈ c.records, ∀ pair ∈ pairs, ∀ e, (r.attributeIs pair).outcome = .error e →
    e.kind.isType = false

theorem callFinder_typeError_iff {n : DynamicName} {arguments : List Value}
    (h : c.NoTypeErrors (n.attributes.zip arguments)) :
    (∃ e, (c.callFinder n arguments).outcome = .error e ∧ e.kind.isType) ↔
      arguments.length ≠ n.attributes.length := by
  constructor
  · intro h count
    obtain ⟨e, he, type⟩ := h
    obtain ⟨r, hr, pair, hp, cause, hc, rfl⟩ := (finds_callFinder count).fails e he
    rw [Scan.isType_failure, h r hr pair (Search.mem_of_mem_lastUnderName hp) cause hc] at type
    cases type
  · intro count
    exact ⟨_, callFinder_of_count_ne count, rfl⟩

end

/-! ## Attributes that are named again

For every finder name with an attribute that is named again there are arguments of which not all are looked
for: `1` for an attribute that comes again, `0` for the last one of each name, and an object all of whose
attributes are zero. -/

/-- Arguments that tell an attribute that is named again from one that is not. -/
def repeatMarks : List String → List Value
  | [] => []
  | a :: rest => .int (if a ∈ rest then 1 else 0) :: repeatMarks rest

def zeros (attributes : List String) : Value := .record (attributes.map fun a => (a, .int 0)) []

theorem length_repeatMarks (attributes : List String) :
    (repeatMarks attributes).length = attributes.length := by
  induction attributes with
  | nil => rfl
  | cons a rest ih => rw [repeatMarks, List.length_cons, ih, List.length_cons]

theorem zip_repeatMarks_names (attributes : List String) :
    (attributes.zip (repeatMarks attributes)).map (·.1) = attributes :=
  List.map_fst_zip (Nat.le_of_eq (length_repeatMarks attributes).symm)

theorem mem_repeatMarks {attributes : List String} {v : Value} (h : v ∈ repeatMarks attributes) :
    v = .int 0 ∨ v = .int 1 := by
  induction attributes with
  | nil => cases h
  | cons a rest ih =>
    rcases List.mem_cons.1 h with rfl | h
    · split
      · exact .inr rfl
      · exact .inl rfl
    · exact ih h

theorem lastUnderName_repeatMarks (attributes : List String) :
    ∀ pair ∈ Search.lastUnderName (attributes.zip (repeatMarks attributes)), pair.2 = .int 0 := by
  induction attributes with
  | nil => intro _ h; cases h
  | cons a rest ih =>
    intro pair h
    rw [repeatMarks, List.zip_cons_cons, Search.lastUnderName, zip_repeatMarks_names] at h
    split at h
    · -- the attribute comes again, and its first argument is dropped
      exact ih pair h
    · rcases List.mem_cons.1 h with rfl | h
      · rfl
      · exact ih pair h

theorem nodup_of_repeatMarks {attributes : List String}
    (h : ∀ pair ∈ attributes.zip (repeatMarks attributes), pair.2 = .int 0) : attributes.Nodup := by
  induction attributes with
  | nil => exact List.nodup_nil
  | cons a rest ih =>
    rw [repeatMarks, List.zip_cons_cons, List.forall_mem_cons] at h
    obtain ⟨mark, h⟩ := h
    refine List.nodup_cons.2 ⟨fun again => ?_, ih h⟩
    rw [if_pos again] at mark
    cases mark

theorem wanted_of_pick_eq {r : Value} {finders : DefaultFinders} {wanted wanted' : Value → Bool}
    {reach : Reach} (hr : r ≠ .none) (h : wanted r = true)
    (same : pick ⟨.base, [r], finders⟩ wanted reach = pick ⟨.base, [r], finders⟩ wanted' reach) :
    wanted' r = true := by
  cases refused : wanted' r with
  | true => rfl
  | false =>
    cases reach with
    | all => simp [pick, withRecords, toValue, h, refused] at same
    | single =>
      simp [pick, h, refused] at same
      exact absurd same hr

section
variable [Answers] {attributes : List String}

theorem read_zeros {name : String} (h : name ∈ attributes) :
    ((zeros attributes).read name).outcome = .ok (.int 0) := by
  have attr : ((zeros attributes).attr name).outcome = .ok (.int 0) := by
    simp only [zeros, Value.attr]
    cases found : (attributes.map fun a => (a, Value.int 0)).find? (·.1 == name) with
    | none =>
      have absent := List.find?_eq_none.1 found _ (List.mem_map.2 ⟨name, h, rfl⟩)
      simp at absent
    | some field =>
      obtain ⟨_, _, rfl⟩ := List.mem_map.1 (List.mem_of_find?_eq_some found)
      rfl
  exact Run.outcome_handle_eq_ok.2 (.inl attr)

theorem attributeIs_zeros {pair : String × Value} (h : pair ∈ attributes.zip (repeatMarks attributes)) :
    (pair.2 = .int 0 ∧ ((zeros attributes).attributeIs pair).outcome = .ok true) ∨
      (pair.2 = .int 1 ∧ ((zeros attributes).attributeIs pair).outcome = .ok false) := by
  obtain ⟨name, mark⟩ := List.of_mem_zip h
  have compared : ((zeros attributes).attributeIs pair).outcome = pair.2.isEqual (.int 0) :=
    Run.outcome_bind_of_ok (read_zeros name) _
  rw [compared]
  rcases mem_repeatMarks mark with zero | one
  · rw [zero]
    exact .inl ⟨rfl, rfl⟩
  · rw [one]
    exact .inr ⟨rfl, rfl⟩

theorem answered_zeros {pair : String × Value} (h : pair ∈ attributes.zip (repeatMarks attributes)) :
    Scan.Answered (zeros attributes).attributeIs pair := by
  rcases attributeIs_zeros h with ⟨_, passes⟩ | ⟨_, refused⟩
  · exact ⟨true, passes⟩
  · exact ⟨false, refused⟩

theorem passes_zeros {pair : String × Value} (h : pair ∈ attributes.zip (repeatMarks attributes)) :
    Scan.passes (zeros attributes).attributeIs pair = true ↔ pair.2 = .int 0 := by
  rw [Scan.passes_eq_true]
  rcases attributeIs_zeros h with ⟨zero, passes⟩ | ⟨one, refused⟩
  · exact ⟨fun _ => zero, fun _ => passes⟩
  · rw [one, refused]
    constructor
    · intro passes; cases passes
    · intro zero; cases zero

theorem nodup_of_finds {n : DynamicName}
    (h : ∀ (c : Collection) (arguments : List Value), arguments.length = n.attributes.length →
      c.Finds n.reach (n.attributes.zip arguments) (c.callFinder n arguments).outcome) :
    n.attributes.Nodup := by
  let c : Collection := ⟨.base, [zeros n.attributes], .none⟩
  have count := length_repeatMarks n.attributes
  have last := finds_callFinder (c := c) count
  have every := h c _ count
  -- by the last argument of each attribute the object is wanted
  have wanted : (Search.lastUnderName (n.attributes.zip (repeatMarks n.attributes))).all
      (Scan.passes (zeros n.attributes).attributeIs) = true := by
    rw [List.all_eq_true]
    intro pair hp
    rw [passes_zeros (Search.mem_of_mem_lastUnderName hp)]
    exact lastUnderName_repeatMarks n.attributes pair hp
  have answered : ∀ r ∈ c.records, ∀ pair ∈ Search.lastUnderName (n.attributes.zip
      (repeatMarks n.attributes)), Scan.Answered r.attributeIs pair := by
    intro r hr pair hp
    rw [List.mem_singleton.1 hr]
    exact answered_zeros (Search.mem_of_mem_lastUnderName hp)
  -- it is answered, and so it is wanted by all arguments, which are zero therefore
  have same := every.answers _ (last.eq_ok answered)
  have object : zeros n.attributes ≠ .none := nofun
  have all_wanted := List.all_eq_true.1 (wanted_of_pick_eq object wanted same)
  apply nodup_of_repeatMarks
  intro pair hp
  exact (passes_zeros hp).1 (all_wanted pair hp)

/-! ## Finder names called with arguments -/

/-- What asking for a name comes to that is taken apart into a finder, for every collection and all
arguments. -/
structure QueriedAs (name : String) (n : DynamicName) : Prop where
  miscounted : ∀ (c : Collection) (arguments : List Value),
    arguments.length ≠ n.attributes.length → (c.query name arguments).outcome =
      .error (.argumentCount n.token n.attributes.length arguments.length)
  /-- Where reading and comparing raise no error of type, the count alone decides on one. -/
  typeError_iff : ∀ (c : Collection) (arguments : List Value),
    c.NoTypeErrors (n.attributes.zip arguments) →
      ((∃ e, (c.query name arguments).outcome = .error e ∧ e.kind.isType) ↔
        arguments.length ≠ n.attributes.length)
  /-- Of the arguments for an attribute the last one is looked for. -/
  last_found : ∀ (c : Collection) (arguments : List Value),
    arguments.length = n.attributes.length →
      c.Finds n.reach (Search.lastUnderName (n.attributes.zip arguments)) (c.query name arguments).outcome
  /-- All arguments are looked for exactly if no attribute is named again. -/
  every_found_iff : (∀ (c : Collection) (arguments : List Value),
    arguments.length = n.attributes.length →
      c.Finds n.reach (n.attributes.zip arguments) (c.query name arguments).outcome) ↔
        n.attributes.Nodup

/-- What a finder name answers and how it fails. -/
theorem query_finder_name {name : String} {n : DynamicName}
    (h : DynamicName.finder? name = some n) : QueriedAs name n := by
  have called (c : Collection) (arguments : List Value) :
      c.query name arguments = c.callFinder n arguments := query_of_finder? h arguments
  refine ⟨?_, ?_, ?_, ?_, ?_⟩
  all_goals simp only [called]
  · exact fun c arguments => callFinder_of_count_ne
  · exact fun c arguments => callFinder_typeError_iff
  · exact fun c arguments => finds_callFinder
  · exact nodup_of_finds
  · intro distinct c arguments count
    have names : ((n.attributes.zip arguments).map (·.1)).Nodup := by
      rw [List.map_fst_zip (Nat.le_of_eq count.symm)]
      exact distinct
    have last := finds_callFinder (c := c) count
    rw [Search.lastUnderName_of_nodup names] at last
    exact last

end

/-- A name with two attributes. A class among the arguments is compared: of the names that are texts, and
one that is the class of texts, it finds the latter only. -/
theorem query_name_and_age :
    let ann : Value := .record [("name", .text "ann"), ("age", .int 30)] []
    let anna : Value := .record [("name", .text "anna"), ("age", .int 30)] []
    let typed : Value := .record [("name", .kind .text), ("age", .int 30)] []
    let people : Collection := ⟨.base, [anna, ann, typed, ann], .none⟩
    (people.query "find_all_by_name_and_age" [.text "ann"]).outcome =
        .error (.argumentCount "find_all_by_name_and_age" 2 1) ∧
      (people.query "find_all_by_name_and_age" [.text "ann", .int 30]).outcome =
        .ok (people.withRecords [ann, ann]).toValue ∧
      (people.query "find_all_by_name_and_age" [.kind .text, .int 30]).outcome =
        .ok (people.withRecords [typed]).toValue := by
  intro ann anna typed people
  have parsed : DynamicName.finder? "find_all_by_name_and_age" =
      some ⟨"find_all_by_name_and_age", .all, ["name", "age"], "find_all_by_name_and_age", none, true,
        false⟩ := by decide +kernel
  have asked := query_finder_name parsed
  have every := asked.every_found_iff.2 (by decide)
  have answered (name : Value) (h : name = .text "ann" ∨ name = .kind .text) : ∀ r ∈ people.records,
      ∀ pair ∈ [("name", name), ("age", .int 30)], Scan.Answered r.attributeIs pair := by
    intro r hr pair hp
    simp only [people, List.mem_cons, List.not_mem_nil, or_false] at hr hp
    rcases h with rfl | rfl
    all_goals
      rcases hr with rfl | rfl | rfl | rfl
      all_goals rcases hp with rfl | rfl <;> exact ⟨_, rfl⟩
  refine ⟨asked.miscounted people _ (by decide), ?_, ?_⟩
  · exact (every people [.text "ann", .int 30] rfl).eq_ok (answered _ (.inl rfl))
  · exact (every people [.kind .text, .int 30] rfl).eq_ok (answered _ (.inr rfl))

/-- An argument before the last one for its attribute is not looked for: one record has `a` equal to `1`,
the other one to `2`, and the second one is found as a record with both. -/
theorem repeated_attribute_found :
    ¬ ∀ (c : Collection) (arguments : List Value) (name : String) (n : DynamicName),
      DynamicName.finder? name = some n → arguments.length = n.attributes.length →
        c.Finds n.reach (n.attributes.zip arguments) (c.query name arguments).outcome := by
  intro h
  let one : Value := .record [("a", .int 1)] []
  let two : Value := .record [("a", .int 2)] []
  let c : Collection := ⟨.base, [one, two], .none⟩
  have parsed : DynamicName.finder? "find_all_by_a_and_a" =
      some ⟨"find_all_by_a_and_a", .all, ["a", "a"], "find_all_by_a_and_a", none, true, false⟩ := by
    decide +kernel
  have found : (c.query "find_all_by_a_and_a" [.int 1, .int 2]).outcome =
      .ok (c.withRecords [two]).toValue := by
    rw [query_of_finder? parsed]
    rfl
  have none_found := (h c [.int 1, .int 2] _ _ parsed rfl).answers _ found
  cases none_found

end Collection
end RecordQuery
