import RecordQuery.Collection.Operation
import RecordQuery.Proofs.BareNames
import RecordQuery.Proofs.Brackets
import RecordQuery.Proofs.FinderNames
import RecordQuery.Proofs.NamedCriteria
/-!
What a query sees of a record: what it has under the names that the query consults.

Two collections whose records look alike under these names are queried in step, test by test, and the query
selects the same positions of both or fails with the same error (`seen_by_names`). So an attribute that is
missing is not told apart from one that is nothing, nor an object from a mapping (`Twins`). Two runs in step
are stated as `Run.Alike`, with one lemma for each way to put runs together.
-/

namespace RecordQuery

/-! ## Runs in step -/

/-- Two results are answers that are related, or the same failure. -/
inductive Checked.Related (R : α → β → Prop) : Checked α → Checked β → Prop
  | ok {a : α} {b : β} (h : R a b) : Related R (.ok a) (.ok b)
  | error (e : Failure) : Related R (.error e) (.error e)

theorem Checked.Related.cases {R : α → β → Prop} {r : Checked α} {r' : Checked β} (h : Related R r r') :
    (∃ a b, r = .ok a ∧ r' = .ok b ∧ R a b) ∨ ∃ e, r = .error e ∧ r' = .error e := by
  cases h with
  | ok h => exact .inl ⟨_, _, rfl, rfl, h⟩
  | error e => exact .inr ⟨e, rfl, rfl⟩

def Run.Alike (R : α → β → Prop) (r : Run α) (r' : Run β) : Prop := Checked.Related R r.outcome r'.outcome

namespace Run.Alike

variable {R : α → β → Prop} {S : γ → δ → Prop} {r : Run α} {r' : Run β}

theorem pure {a : α} {b : β} (h : R a b) : Alike R (Pure.pure a : Run α) (Pure.pure b) := .ok h

theorem of_eq {r r' : Run α} (h : r.outcome = r'.outcome) : Alike Eq r r' := by
  unfold Alike
  rw [h]
  cases r'.outcome with
  | ok a => exact .ok rfl
  | error e => exact .error e

theorem of_ok {a : α} {b : β} (ha : r.outcome = .ok a) (hb : r'.outcome = .ok b) (h : R a b) :
    Alike R r r' := by
  rw [Alike, ha, hb]
  exact .ok h

theorem of_error {e : Failure} (he : r.outcome = .error e) (he' : r'.outcome = .error e) : Alike R r r' := by
  rw [Alike, he, he']
  exact .error e

theorem mono {T : α → β → Prop} (h : Alike R r r') (implies : ∀ a b, R a b → T a b) : Alike T r r' := by
  rcases h.cases with ⟨a, b, ha, hb, h⟩ | ⟨e, he, he'⟩
  · exact of_ok ha hb (implies a b h)
  · exact of_error he he'

theorem bind {f : α → Run γ} {g : β → Run δ} (h : Alike R r r')
    (next : ∀ a b, R a b → Alike S (f a) (g b)) : Alike S (r >>= f) (r' >>= g) := by
  rcases h.cases with ⟨a, b, ha, hb, h⟩ | ⟨e, he, he'⟩
  · rw [Alike, outcome_bind_of_ok ha, outcome_bind_of_ok hb]
    exact next a b h
  · exact of_error (outcome_bind_of_error he f) (outcome_bind_of_error he' g)

theorem bind_same {f : α → Run γ} {g : α → Run δ} (r : Run α)
    (next : ∀ a, r.outcome = .ok a → Alike S (f a) (g a)) : Alike S (r >>= f) (r >>= g) := by
  cases h : r.outcome with
  | ok a =>
    rw [Alike, outcome_bind_of_ok h, outcome_bind_of_ok h]
    exact next a h
  | error e => exact of_error (outcome_bind_of_error h f) (outcome_bind_of_error h g)

theorem guarded (h : Alike R r r') : Alike R (Scan.guarded r) (Scan.guarded r') := by
  rcases h.cases with ⟨a, b, ha, hb, h⟩ | ⟨e, he, he'⟩
  · exact of_ok (Scan.outcome_guarded_eq_ok.2 ha) (Scan.outcome_guarded_eq_ok.2 hb) h
  · exact of_error (Scan.outcome_guarded_eq_error.2 ⟨e, he, rfl⟩)
      (Scan.outcome_guarded_eq_error.2 ⟨e, he', rfl⟩)

end Run.Alike

/-! ## Scans in step -/

def marked : (marks : List Bool) → List α → List α
  | mark :: marks, x :: xs => if mark then x :: marked marks xs else marked marks xs
  | _, _ => []

theorem marked_none (xs : List α) : marked (xs.map fun _ => false) xs = [] := by
  induction xs with
  | nil => rfl
  | cons x xs ih => exact ih

theorem length_marked {xs : List α} {ys : List β} (same : xs.length = ys.length) (marks : List Bool) :
    (marked marks xs).length = (marked marks ys).length := by
  induction marks generalizing xs ys with
  | nil => rfl
  | cons mark marks ih =>
    cases xs with
    | nil => cases ys with
      | nil => rfl
      | cons => cases same
    | cons x xs => cases ys with
      | nil => cases same
      | cons y ys =>
        have rest := ih (Nat.succ.inj same)
        cases mark <;> simp [marked, rest]

namespace Scan

/-- No item of two lists, or the items at one position. -/
inductive SamePosition (xs : List α) (ys : List β) : Option α → Option β → Prop
  | none : SamePosition xs ys none none
  | at_position (i : Nat) {x : α} {y : β} (hx : xs[i]? = some x) (hy : ys[i]? = some y) :
    SamePosition xs ys (some x) (some y)

/-- The items of two lists at the same positions, with one mark for each position. -/
def SamePositions (xs : List α) (ys : List β) (kept : List α) (kept' : List β) : Prop :=
  ∃ marks : List Bool, marks.length = xs.length ∧ kept = marked marks xs ∧ kept' = marked marks ys

section
variable {test : α → Run Bool} {test' : β → Run Bool} {xs : List α} {ys : List β}

theorem SamePosition.cons {x : α} {y : β} {o : Option α} {o' : Option β} (h : SamePosition xs ys o o') :
    SamePosition (x :: xs) (y :: ys) o o' := by
  cases h with
  | none => exact .none
  | at_position i hx hy => exact .at_position (i + 1) hx hy

theorem alike_first (h : List.Forall₂ (fun x y => (test x).outcome = (test' y).outcome) xs ys) :
    Run.Alike (SamePosition xs ys) (first test xs) (first test' ys) := by
  induction h with
  | nil => exact .pure .none
  | cons here _ ih =>
    refine (Run.Alike.of_eq here).bind fun passes _ same => ?_
    subst same
    cases passes with
    | true => exact .pure (.at_position 0 rfl rfl)
    | false => exact ih.mono fun _ _ => .cons

theorem alike_all (h : List.Forall₂ (fun x y => (test x).outcome = (test' y).outcome) xs ys) :
    Run.Alike (SamePositions xs ys) (all test xs) (all test' ys) := by
  induction h with
  | nil => exact .pure ⟨[], rfl, rfl, rfl⟩
  | cons here _ ih =>
    refine (Run.Alike.of_eq here).bind fun passes _ same => ih.bind fun kept kept' rest => ?_
    subst same
    obtain ⟨marks, size, hk, hk'⟩ := rest
    refine .pure ⟨passes :: marks, congrArg (· + 1) size, ?_, ?_⟩
    · rw [hk]; rfl
    · rw [hk']; rfl

end
end Scan

/-! ## What a query sees of a record -/

namespace Value

/-- What a query sees of a record under a name: nothing in the place of a missing value. -/
def shown [Answers] (record : Value) (name : String) : Checked Value :=
  (record.read name).outcome.map orNone

/-- Two records that a query with some names cannot tell apart. Lookups go on at a record that is nothing. -/
structure LooksLike [Answers] (names : List String) (r r' : Value) : Prop where
  shown : ∀ name ∈ names, r.shown name = r'.shown name
  nothing : r = .none ↔ r' = .none

theorem LooksLike.mono [Answers] {names more : List String} {r r' : Value} (h : LooksLike more r r')
    (among : ∀ name ∈ names, name ∈ more) : LooksLike names r r' :=
  ⟨fun name listed => h.shown name (among name listed), h.nothing⟩

end Value

namespace Search

section
variable [Answers] {record r r' : Value} {s : Search}

theorem outcome_checkEntry (entry : String × Matcher) :
    (checkEntry record entry).outcome =
      record.shown entry.1 >>= fun actual => (entry.2.accepts actual).outcome := by
  rw [checkEntry, Run.outcome_bind, Value.shown]
  cases (record.read entry.1).outcome <;> rfl

theorem outcome_tests_of_looksLike (h : Value.LooksLike s.names r r') :
    (s.tests r).outcome = (s.tests r').outcome := by
  induction s with
  | nil => rfl
  | cons entry s ih =>
    have here : r.shown entry.1 = r'.shown entry.1 := h.shown entry.1 List.mem_cons_self
    have rest : (accepts r s).outcome = (accepts r' s).outcome :=
      ih (h.mono fun name => List.mem_cons_of_mem entry.1)
    have step (record : Value) : (tests (entry :: s) record).outcome =
        (record.shown entry.1 >>= fun actual => (entry.2.accepts actual).outcome) >>= fun b =>
          if b then (accepts record s).outcome else .ok false := by
      rw [tests, accepts_cons, Run.outcome_bind, outcome_checkEntry]
      congr 1
      funext b
      cases b <;> rfl
    rw [step, step, here, rest]

end
end Search

namespace Criteria

def consulted (v : Value) (attributes : List (String × Value)) : List String :=
  match (predicate v attributes).outcome with
  | .ok (.search s) => s.names
  | _ => []

def AskByName (v : Value) (attributes : List (String × Value)) : Prop :=
  ∀ f, (predicate v attributes).outcome ≠ .ok (.function f)

theorem exists_search {v : Value} {attributes : List (String × Value)} (asks : AskByName v attributes)
    {p : Predicate} (hp : (predicate v attributes).outcome = .ok p) :
    ∃ s, p = .search s ∧ consulted v attributes = s.names := by
  cases p with
  | function f => exact absurd hp (asks f)
  | search s => exact ⟨s, rfl, by rw [consulted, hp]⟩

theorem askByName_of_dict (entries : List (Value × Value)) (attributes : List (String × Value)) :
    AskByName (.dict entries) attributes := by
  intro f asks
  have made : (predicate (.dict entries) attributes).outcome =
      (Search.ofEntries (mergeEntries entries (named attributes))).map .search := outcome_ofEntries _
  rw [made] at asks
  cases h : Search.ofEntries (mergeEntries entries (named attributes)) with
  | ok s => rw [h] at asks; cases asks
  | error e => rw [h] at asks; cases asks

theorem consulted_finderEntry {finder name : String} {key : Value}
    (h : name ∈ consulted (Collection.finderEntry finder key) []) : name = finder := by
  unfold consulted at h
  cases classified : Matcher.ofExpected key with
  | ok m =>
    rw [Collection.predicate_finderEntry classified finder] at h
    exact List.mem_singleton.1 h
  | error e =>
    have entry : (Value.text finder, key) ∈ [(Value.text finder, key)] := List.mem_singleton_self _
    obtain ⟨e', failed, _⟩ := Search.ofEntries_eq_error_of_mem entry classified
    have fails : (predicate (Collection.finderEntry finder key) []).outcome = .error e' := by
      show (ofEntries [(.text finder, key)]).outcome = _
      rw [outcome_ofEntries, failed]
      rfl
    rw [fails] at h
    cases h

theorem consulted_finderCriteria {attributes : List String} {arguments : List Value} {name : String}
    (h : name ∈ consulted (Collection.finderCriteria attributes arguments) []) : name ∈ attributes := by
  unfold consulted at h
  rw [finderCriteria_eq, predicate_entries (names_finderSearch_nodup attributes arguments)] at h
  obtain ⟨entry, listed, rfl⟩ := List.mem_map.1 h
  obtain ⟨pair, last, rfl⟩ := List.mem_map.1 ((mem_finderSearch attributes arguments entry).1 listed)
  exact (List.of_mem_zip (Search.mem_of_mem_lastUnderName last)).1

end Criteria

namespace Collection

/-! ## Searches and lookups in step -/

/-- Nothing, or the records of two collections at one position. -/
inductive SameRecord (c c' : Collection) : Value → Value → Prop
  | nothing : SameRecord c c' .none .none
  | at_position (i : Nat) {r r' : Value} (hr : c.records[i]? = some r) (hr' : c'.records[i]? = some r') :
    SameRecord c c' r r'

def SameRecords (c c' d d' : Collection) : Prop :=
  ∃ kept kept', Scan.SamePositions c.records c'.records kept kept' ∧
    d = c.withRecords kept ∧ d' = c'.withRecords kept'

section
variable [Answers] {c c' : Collection} {key v : Value} {attributes : List (String × Value)}
  {names : List String} {S : γ → δ → Prop}

/-- Two collections with the same finders whose records look alike under some names. -/
structure LookAlike (c c' : Collection) (names : List String) : Prop where
  finders : c.finders = c'.finders
  records : List.Forall₂ (Value.LooksLike names) c.records c'.records

theorem LookAlike.mono {more : List String} (h : c.LookAlike c' more)
    (among : ∀ name ∈ names, name ∈ more) : c.LookAlike c' names :=
  ⟨h.finders, h.records.imp fun _ _ alike => alike.mono among⟩

theorem LookAlike.at_position (h : c.LookAlike c' names) {i : Nat} {r r' : Value}
    (hr : c.records[i]? = some r) (hr' : c'.records[i]? = some r') : Value.LooksLike names r r' := by
  obtain ⟨hi, rfl⟩ := List.getElem?_eq_some_iff.1 hr
  obtain ⟨hi', rfl⟩ := List.getElem?_eq_some_iff.1 hr'
  exact (List.forall₂_iff_get.1 h.records).2 i hi hi'

theorem LookAlike.tests {s : Search} (h : c.LookAlike c' s.names) :
    List.Forall₂ (fun r r' => ((Predicate.search s).holds r).outcome =
      ((Predicate.search s).holds r').outcome) c.records c'.records :=
  h.records.imp fun _ _ alike => Search.outcome_tests_of_looksLike alike

theorem alike_findBy (asks : Criteria.AskByName v attributes)
    (h : c.LookAlike c' (Criteria.consulted v attributes)) :
    Run.Alike (SameRecord c c') (c.findBy v attributes) (c'.findBy v attributes) := by
  refine Run.Alike.bind_same _ fun p hp => ?_
  obtain ⟨s, rfl, names⟩ := Criteria.exists_search asks hp
  rw [names] at h
  refine (Scan.alike_first h.tests).guarded.bind fun o o' same => ?_
  cases same with
  | none => exact .pure .nothing
  | at_position i hr hr' => exact .pure (.at_position i hr hr')

theorem alike_findAll (asks : Criteria.AskByName v attributes)
    (h : c.LookAlike c' (Criteria.consulted v attributes)) :
    Run.Alike (SameRecords c c') (c.findAll v attributes) (c'.findAll v attributes) := by
  refine Run.Alike.bind_same _ fun p hp => ?_
  obtain ⟨s, rfl, names⟩ := Criteria.exists_search asks hp
  rw [names] at h
  refine (Scan.alike_all h.tests).guarded.bind fun kept kept' same => ?_
  rw [spawn_eq, spawn_eq]
  exact .pure ⟨kept, kept', same, rfl, rfl⟩

theorem LookAlike.finderEntry {finder : String} (h : c.LookAlike c' names) (listed : finder ∈ names) :
    c.LookAlike c' (Criteria.consulted (finderEntry finder key) []) := by
  apply h.mono
  intro name consulted
  rw [Criteria.consulted_finderEntry consulted]
  exact listed

theorem alike_lookupAmong (h : c.LookAlike c' names) {rest : List String}
    (among : ∀ finder ∈ rest, finder ∈ names) :
    Run.Alike (SameRecord c c') (c.lookupAmong key rest) (c'.lookupAmong key rest) := by
  induction rest with
  | nil => exact .pure .nothing
  | cons finder rest ih =>
    obtain ⟨listed, others⟩ := List.forall_mem_cons.1 among
    have first := alike_findBy (Criteria.askByName_of_dict [(.text finder, key)] []) (h.finderEntry listed)
    rcases first.cases with ⟨r, r', hr, hr', same⟩ | ⟨e, he, he'⟩
    · have nothing : r = .none ↔ r' = .none := by
        cases same with
        | nothing => rfl
        | at_position i at_i at_i' => exact (h.at_position at_i at_i').nothing
      by_cases none : r = .none
      · subst none
        rw [nothing.1 rfl] at hr'
        rw [Run.Alike, lookupAmong_cons_of_none hr, lookupAmong_cons_of_none hr']
        exact ih others
      · have some' : r' ≠ .none := fun none' => none (nothing.2 none')
        exact .of_ok (lookupAmong_cons_of_record hr none) (lookupAmong_cons_of_record hr' some') same
    · exact .of_error (Run.outcome_bind_of_error he _) (Run.outcome_bind_of_error he' _)

theorem LookAlike.length_eq (h : c.LookAlike c' names) : c.records.length = c'.records.length :=
  h.records.length_eq

theorem alike_lookupAllAmong (h : c.LookAlike c' names) {rest : List String}
    (among : ∀ finder ∈ rest, finder ∈ names) :
    Run.Alike (SameRecords c c') (c.lookupAllAmong key rest) (c'.lookupAllAmong key rest) := by
  induction rest with
  | nil =>
    rw [lookupAllAmong, lookupAllAmong, spawn_eq, spawn_eq]
    refine .pure ⟨[], [], ⟨c.records.map fun _ => false, List.length_map _, ?_, ?_⟩, rfl, rfl⟩
    · exact (marked_none c.records).symm
    · exact (List.length_eq_zero_iff.1 (by rw [← length_marked h.length_eq, marked_none]; rfl)).symm
  | cons finder rest ih =>
    obtain ⟨listed, others⟩ := List.forall_mem_cons.1 among
    have first := alike_findAll (Criteria.askByName_of_dict [(.text finder, key)] []) (h.finderEntry listed)
    refine first.bind fun d d' same => ?_
    obtain ⟨kept, kept', ⟨marks, _, hk, hk'⟩, hd, hd'⟩ := id same
    -- the same marks select the records of both, so both selections are empty or neither is
    have empty : d.records.isEmpty = d'.records.isEmpty := by
      have length := length_marked h.length_eq marks
      rw [hd, hd', Bool.eq_iff_iff, List.isEmpty_iff_length_eq_zero, List.isEmpty_iff_length_eq_zero]
      show kept.length = 0 ↔ kept'.length = 0
      rw [hk, hk', length]
    rw [empty]
    split
    · exact ih others
    · exact .pure same

theorem LookAlike.required (h : c.LookAlike c' names) {f : List String → Run γ} {g : List String → Run δ}
    (next : Run.Alike S (f c.finders.names) (g c.finders.names)) :
    Run.Alike S (Run.ofChecked (c.requireFinders key) >>= f)
      (Run.ofChecked (c'.requireFinders key) >>= g) := by
  have same : c'.requireFinders key = c.requireFinders key := by
    rw [requireFinders, requireFinders, h.finders]
  rw [same]
  refine Run.Alike.bind_same _ fun found required => ?_
  rw [names_of_requireFinders required]
  exact next

def keyNames (key : Value) (finders : List String) : List String :=
  if key.isQuery then Criteria.consulted key [] else finders

theorem alike_lookup (asks : key.isQuery → Criteria.AskByName key [])
    (h : c.LookAlike c' (keyNames key c.finders.names)) :
    Run.Alike (SameRecord c c') (c.lookup key) (c'.lookup key) := by
  unfold lookup
  unfold keyNames at h
  split
  · rename_i query
    rw [if_pos query] at h
    exact alike_findBy (asks query) h
  · rename_i plain
    rw [if_neg plain] at h
    exact h.required (alike_lookupAmong h fun _ => id)

theorem alike_lookupAll (asks : key.isQuery → Criteria.AskByName key [])
    (h : c.LookAlike c' (keyNames key c.finders.names)) :
    Run.Alike (SameRecords c c') (c.lookupAll key) (c'.lookupAll key) := by
  unfold lookupAll
  unfold keyNames at h
  split
  · rename_i query
    rw [if_pos query] at h
    exact alike_findAll (asks query) h
  · rename_i plain
    rw [if_neg plain] at h
    exact h.required (alike_lookupAllAmong h fun _ => id)

end

/-! ## Names in step -/

/-- What a query selects of two collections: the same positions, the same verdict, or the same failure. Only
"no such name" names the class of the collection. -/
inductive SelectsAlike (c c' : Collection) : Checked Value → Checked Value → Prop
  | record {r r' : Value} (same : SameRecord c c' r r') : SelectsAlike c c' (.ok r) (.ok r')
  | records {d d' : Collection} (same : SameRecords c c' d d') :
    SelectsAlike c c' (.ok d.toValue) (.ok d'.toValue)
  | verdict (b : Bool) : SelectsAlike c c' (.ok (.bool b)) (.ok (.bool b))
  | failure (e : Failure) : SelectsAlike c c' (.error e) (.error e)
  | unrecognized (name : String) : SelectsAlike c c' (.error (.unrecognizedName c.className name))
    (.error (.unrecognizedName c'.className name))

section
variable {c c' : Collection}

theorem SelectsAlike.of_record {r r' : Run Value} (h : Run.Alike (SameRecord c c') r r') :
    SelectsAlike c c' r.outcome r'.outcome := by
  rcases h.cases with ⟨a, b, ha, hb, same⟩ | ⟨e, he, he'⟩
  · rw [ha, hb]
    exact .record same
  · rw [he, he']
    exact .failure e

theorem SelectsAlike.of_records {r r' : Run Collection} (h : Run.Alike (SameRecords c c') r r') :
    SelectsAlike c c' (r >>= fun found => (pure found.toValue : Run Value)).outcome
      (r' >>= fun found => (pure found.toValue : Run Value)).outcome := by
  rw [outcome_toValue, outcome_toValue]
  rcases h.cases with ⟨a, b, ha, hb, same⟩ | ⟨e, he, he'⟩
  · rw [ha, hb]
    exact .records same
  · rw [he, he']
    exact .failure e

theorem selectsAlike_nothingFor {n : DynamicName} : SelectsAlike c c' (c.nothingFor n) (c'.nothingFor n) := by
  unfold nothingFor
  split
  · exact .verdict false
  · exact .unrecognized n.name

end

section
variable [Answers] {c c' : Collection} {n : DynamicName}

theorem alike_tokenRecord (h : c.LookAlike c' c.finders.names) :
    Run.Alike (SameRecord c c') (c.tokenRecord n) (c'.tokenRecord n) := by
  by_cases token : n.token = ""
  · have nothing (c : Collection) : c.tokenRecord n = pure .none := by
      rw [tokenRecord, token]
      rfl
    rw [nothing, nothing]
    exact .pure .nothing
  · obtain ⟨m, plain⟩ := plainKey_bareKey n
    have names : keyNames (bareKey n) c.finders.names = c.finders.names := by
      rw [keyNames, plain.isQuery_eq]
      rfl
    have no_query : (bareKey n).isQuery → Criteria.AskByName (bareKey n) [] := by
      intro query
      rw [plain.isQuery_eq] at query
      cases query
    have looked := alike_lookup no_query (names.symm ▸ h)
    rcases looked.cases with ⟨r, r', hr, hr', same⟩ | ⟨e, he, he'⟩
    · exact .of_ok (tokenRecord_of_ok token hr) (tokenRecord_of_ok token hr') same
    · -- both lookups fail in the same way, so both failures are taken for nothing found or neither is
      by_cases unsupported : e.kind = .unsupportedKey
      · exact .of_ok (tokenRecord_of_unsupported token he unsupported)
          (tokenRecord_of_unsupported token he' unsupported) .nothing
      · exact .of_error (tokenRecord_of_error token he unsupported)
          (tokenRecord_of_error token he' unsupported)

theorem selectsAlike_resolve (h : c.LookAlike c' c.finders.names) :
    SelectsAlike c c' (c.resolve n).outcome (c'.resolve n).outcome := by
  rcases (alike_tokenRecord (n := n) h).cases with ⟨r, r', hr, hr', same⟩ | ⟨e, he, he'⟩
  · cases same with
    | nothing =>
      rw [resolve_of_nothing hr, resolve_of_nothing hr']
      exact selectsAlike_nothingFor
    | at_position i at_i at_i' =>
      have nothing := (h.at_position at_i at_i').nothing
      by_cases none : r = .none
      · have none' : r' = .none := nothing.1 none
        subst none none'
        rw [resolve_of_nothing hr, resolve_of_nothing hr']
        exact selectsAlike_nothingFor
      · rw [resolve_of_record hr none, resolve_of_record hr' fun none' => none (nothing.2 none')]
        split
        · exact .verdict true
        · exact .record (.at_position i at_i at_i')
  · rw [resolve_of_error he, resolve_of_error he']
    exact .failure e

theorem selectsAlike_callFinder {arguments : List Value} (h : c.LookAlike c' n.attributes) :
    SelectsAlike c c' (c.callFinder n arguments).outcome (c'.callFinder n arguments).outcome := by
  have asks : Criteria.AskByName (finderCriteria n.attributes arguments) [] := Criteria.askByName_of_dict _ []
  have alike : c.LookAlike c' (Criteria.consulted (finderCriteria n.attributes arguments) []) :=
    h.mono fun _ => Criteria.consulted_finderCriteria
  unfold callFinder
  split
  · exact .failure _
  · rw [Run.outcome_bind_of_ok rfl, Run.outcome_bind_of_ok rfl]
    cases n.reach with
    | all => exact .of_records (alike_findAll asks alike)
    | single => exact .of_record (alike_findBy asks alike)

theorem selectsAlike_query {name : String} {arguments : List Value}
    (h : c.LookAlike c' (if (DynamicName.parse name).isFinder then (DynamicName.parse name).attributes
      else c.finders.names)) :
    SelectsAlike c c' (c.query name arguments).outcome (c'.query name arguments).outcome := by
  unfold query
  dsimp only
  split
  · rename_i finder
    rw [if_pos finder] at h
    exact selectsAlike_callFinder h
  · rename_i bare
    rw [if_neg bare] at h
    split
    · exact selectsAlike_resolve h
    · exact .failure _

end
end Collection

/-! ## All queries by names -/

namespace Operation

def consulted (finders : List String) : Operation → List String
  | findBy positional attributes =>
    match criteria "find_by" positional with
    | .ok v => Criteria.consulted v attributes
    | .error _ => []
  | findAll positional attributes =>
    match criteria "find_all" positional with
    | .ok v => Criteria.consulted v attributes
    | .error _ => []
  | lookup key | lookupAll key => Collection.keyNames key finders
  | query name _ =>
    if (DynamicName.parse name).isFinder then (DynamicName.parse name).attributes else finders
  | _ => []

/-- The queries that look at records by names: attribute searches, lookups, finders and bare names. A
callable that is asked about whole records is none of them. -/
def AsksByName : Operation → Prop
  | findBy positional attributes =>
    ∀ v, criteria "find_by" positional = .ok v → Criteria.AskByName v attributes
  | findAll positional attributes =>
    ∀ v, criteria "find_all" positional = .ok v → Criteria.AskByName v attributes
  | lookup key | lookupAll key => key.isQuery → Criteria.AskByName key []
  | query _ _ => True
  | _ => False

end Operation

namespace Value

def fieldShown (fields : List (String × Value)) (name : String) : Value :=
  orNone (((fields.find? (·.1 == name)).map (·.2)).getD .missing)

/-- A record with the given fields: an object that exposes these attributes and no others, or a mapping with
these entries. -/
inductive HasFields (fields : List (String × Value)) : Value → Prop
  | object : HasFields fields (.record fields [])
  | dict : HasFields fields (.dict (Criteria.named fields))
  | map : HasFields fields (.map (Criteria.named fields))

/-- Two records that show the same under every name, each of them an object or a mapping. -/
inductive Twins : Value → Value → Prop
  | shown {fields fields' : List (String × Value)} {r r' : Value} (h : HasFields fields r)
    (h' : HasFields fields' r') (same : ∀ name, fieldShown fields name = fieldShown fields' name) :
    Twins r r'

theorem fieldShown_append_none (fields : List (String × Value)) (empty name : String) :
    fieldShown (fields ++ [(empty, .none)]) name = fieldShown fields name := by
  unfold fieldShown
  rw [List.find?_append]
  cases found : fields.find? (·.1 == name) with
  | some field => rfl
  | none =>
    by_cases same : empty = name
    · simp [same, orNone]
    · simp [same]

theorem valueAt?_named (fields : List (String × Value)) (name : String) :
    valueAt? (Criteria.named fields) (.text name) = (fields.find? (·.1 == name)).map (·.2) := by
  have test : ((fun e : Value × Value => e.1.sameKey (.text name)) ∘
      fun field : String × Value => (Value.text field.1, field.2)) = (·.1 == name) :=
    funext fun field => Search.sameKey_text field.1 name
  rw [valueAt?, Criteria.named, List.find?_map, Option.map_map, test]
  rfl

theorem HasFields.shown_eq [Answers] {fields : List (String × Value)} {r : Value} (h : HasFields fields r)
    (name : String) : r.shown name = .ok (fieldShown fields name) := by
  cases h with
  | dict =>
    show Except.ok (((valueAt? _ _).getD .missing).orNone) = _
    rw [valueAt?_named]
    rfl
  | map =>
    show Except.ok (((valueAt? _ _).getD .missing).orNone) = _
    rw [valueAt?_named]
    rfl
  | object =>
    unfold shown fieldShown
    rw [read.eq_def]
    dsimp only
    rw [attr]
    cases found : fields.find? (·.1 == name) with
    | some field => rfl
    | none => rfl

theorem HasFields.ne_none {fields : List (String × Value)} {r : Value} (h : HasFields fields r) :
    r ≠ .none := by
  cases h <;> exact nofun

theorem Twins.looksLike [Answers] {r r' : Value} (h : Twins r r') (names : List String) :
    LooksLike names r r' := by
  obtain ⟨h, h', same⟩ := h
  refine ⟨fun name _ => ?_, fun none => absurd none h.ne_none, fun none => absurd none h'.ne_none⟩
  rw [h.shown_eq, h'.shown_eq, same]

end Value

namespace Collection

section
variable [Answers] {c c' : Collection}

theorem selectsAlike_answer {operation : Operation} (asks : operation.AsksByName)
    (h : c.LookAlike c' (operation.consulted c.finders.names)) :
    SelectsAlike c c' (operation.answer c).outcome (operation.answer c').outcome := by
  cases operation with
  | findBy positional attributes =>
    simp only [Operation.answer]
    simp only [Operation.consulted] at h
    cases given : Operation.criteria "find_by" positional with
    | error e => exact .failure e
    | ok v =>
      rw [given] at h
      exact .of_record (alike_findBy (asks v given) h)
  | findAll positional attributes =>
    simp only [Operation.answer]
    simp only [Operation.consulted] at h
    cases given : Operation.criteria "find_all" positional with
    | error e => exact .failure e
    | ok v =>
      rw [given] at h
      exact .of_records (alike_findAll (asks v given) h)
  | lookup key => exact .of_record (alike_lookup asks h)
  | lookupAll key => exact .of_records (alike_lookupAll asks h)
  | query name arguments => exact selectsAlike_query h
  | _ => exact asks.elim

/-- What two collections with the same default finders have in common for queries by names. -/
structure SeenByNames (c c' : Collection) : Prop where
  /-- A query selects the same positions of both, or fails with the same error, if at each position the two
  records show the same under the names that it consults. -/
  selects : ∀ operation : Operation, operation.AsksByName →
    List.Forall₂ (Value.LooksLike (operation.consulted c.finders.names)) c.records c'.records →
      SelectsAlike c c' (operation.answer c).outcome (operation.answer c').outcome
  /-- In particular a missing attribute is not told apart from one that is nothing, nor a mapping from an
  object. That is so for the attributes that the object lists: an attribute of its class is one more listed
  attribute here, which the mapping has to have an entry for. -/
  twins : List.Forall₂ Value.Twins c.records c'.records → ∀ operation : Operation, operation.AsksByName →
    SelectsAlike c c' (operation.answer c).outcome (operation.answer c').outcome

/-- A query sees a record only through the names that it consults. -/
theorem seen_by_names (finders : c.finders = c'.finders) : c.SeenByNames c' where
  selects _ asks alike := selectsAlike_answer asks ⟨finders, alike⟩
  twins twins _ asks := selectsAlike_answer asks ⟨finders, twins.imp fun _ _ h => h.looksLike _⟩

end

/-- Objects against mappings, and an age that is missing against one that is nothing: asking for records
without age finds the same positions. -/
theorem seen_missing_age :
    let ann : List (String × Value) := [("name", .text "ann")]
    let bob : List (String × Value) := [("name", .text "bob"), ("age", .int 30)]
    let objects : Collection := ⟨.base, [.record ann [], .record bob []], .none⟩
    let mappings : Collection := ⟨.base, [.dict (Criteria.named (ann ++ [("age", .none)])),
      .map (Criteria.named bob)], .none⟩
    let ageless : Operation := .findAll [] [("age", .none)]
    SelectsAlike objects mappings (ageless.answer objects).outcome (ageless.answer mappings).outcome := by
  intro ann bob objects mappings ageless
  have seen : objects.SeenByNames mappings := seen_by_names rfl
  have first : Value.Twins (.record ann []) (.dict (Criteria.named (ann ++ [("age", .none)]))) :=
    .shown .object .dict fun name => (Value.fieldShown_append_none ann "age" name).symm
  have second : Value.Twins (.record bob []) (.map (Criteria.named bob)) :=
    .shown .object .map fun _ => rfl
  have asks : ageless.AsksByName := by
    intro v given f asked
    cases given
    cases asked
  exact seen.twins (.cons first (.cons second .nil)) ageless asks

end Collection
end RecordQuery
