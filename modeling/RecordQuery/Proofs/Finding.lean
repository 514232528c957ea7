import RecordQuery.Collection.Find
import RecordQuery.Function.Call
import RecordQuery.Proofs.CarriedFinders
import RecordQuery.Proofs.Scanning
/-!
Finding the first record and finding all records, for every criteria and every way in which a record may
fail to be checked.

Both come down to one predicate and a scan of the records with it (`findBy_findAll_scan`). What a predicate
answers about a record counts as true or false (`Predicate.outcome_holds`). What the two scans answer is the
structure `ScansWith`; `findBy_eq_error` and `findAll_eq_error` say where a failure
comes from.
-/

namespace RecordQuery

theorem Predicate.outcome_holds [Answers] (p : Predicate) (record : Value) :
    (p.holds record).outcome = (p.answer record).outcome >>= Value.truth := by
  cases p with
  | search s =>
    have answer : ((Predicate.search s).answer record).outcome =
        (s.accepts record).outcome >>= fun b => .ok (.bool b) := Run.outcome_bind _ _
    rw [answer, Predicate.holds]
    cases (s.accepts record).outcome <;> rfl
  | function f => exact Run.outcome_bind _ _

namespace Collection

section
variable [Answers] {c : Collection} {p : Predicate} {criteria : Value}
  {attributes : List (String × Value)}

/-! ## The two searches with a predicate -/

theorem firstWhere_eq_ok {o : Option Value} :
    (c.firstWhere p).outcome = .ok o ↔ (Scan.first p.holds c.records).outcome = .ok o :=
  Scan.outcome_guarded_eq_ok

theorem firstWhere_eq_error {e : Failure} :
    (c.firstWhere p).outcome = .error e ↔
      ∃ cause, (Scan.first p.holds c.records).outcome = .error cause ∧ Scan.failure cause = e :=
  Scan.outcome_guarded_eq_error

theorem allWhere_eq_ok {found : Collection} :
    (c.allWhere p).outcome = .ok found ↔
      (∀ r ∈ c.records, Scan.Answered p.holds r) ∧
        found = c.withRecords (c.records.filter (Scan.passes p.holds)) := by
  unfold allWhere
  rw [Run.outcome_bind_eq_ok]
  constructor
  · intro h
    obtain ⟨records, hr, hs⟩ := h
    obtain ⟨answered, rfl⟩ := Scan.outcome_all_eq_ok.1 (Scan.outcome_guarded_eq_ok.1 hr)
    -- the new collection is made without fail, with the finders of the old one
    rw [Run.outcome_ofChecked, spawn_eq] at hs
    cases hs
    exact ⟨answered, rfl⟩
  · intro h
    obtain ⟨answered, rfl⟩ := h
    refine ⟨_, Scan.outcome_guarded_eq_ok.2 (Scan.outcome_all_eq_ok.2 ⟨answered, rfl⟩), ?_⟩
    rw [Run.outcome_ofChecked, spawn_eq]

theorem allWhere_eq_error {e : Failure} :
    (c.allWhere p).outcome = .error e ↔
      ∃ cause, (Scan.all p.holds c.records).outcome = .error cause ∧ Scan.failure cause = e := by
  unfold allWhere
  rw [Run.outcome_bind_eq_error]
  constructor
  · intro h
    rcases h with hr | ⟨records, _, hs⟩
    · exact Scan.outcome_guarded_eq_error.1 hr
    · rw [Run.outcome_ofChecked, spawn_eq] at hs
      cases hs
  · exact fun h => .inl (Scan.outcome_guarded_eq_error.2 h)

/-! ## The two searches with criteria -/

theorem findAll_of_predicate (hp : (Criteria.predicate criteria attributes).outcome = .ok p) :
    (c.findAll criteria attributes).outcome = (c.allWhere p).outcome :=
  Run.outcome_bind_of_ok hp _

theorem findBy_eq_ok_of_predicate (hp : (Criteria.predicate criteria attributes).outcome = .ok p)
    {v : Value} :
    (c.findBy criteria attributes).outcome = .ok v ↔
      ∃ o, (Scan.first p.holds c.records).outcome = .ok o ∧ o.getD .none = v := by
  unfold findBy
  rw [Run.outcome_bind_of_ok hp, Run.outcome_bind_eq_ok]
  constructor
  · intro h
    obtain ⟨o, ho, hv⟩ := h
    cases hv
    exact ⟨o, firstWhere_eq_ok.1 ho, rfl⟩
  · intro h
    obtain ⟨o, ho, rfl⟩ := h
    exact ⟨o, firstWhere_eq_ok.2 ho, rfl⟩

theorem findBy_eq_error_of_predicate (hp : (Criteria.predicate criteria attributes).outcome = .ok p)
    {e : Failure} :
    (c.findBy criteria attributes).outcome = .error e ↔
      ∃ cause, (Scan.first p.holds c.records).outcome = .error cause ∧ Scan.failure cause = e := by
  unfold findBy
  rw [Run.outcome_bind_of_ok hp, Run.outcome_bind_eq_error]
  constructor
  · intro h
    rcases h with h | ⟨_, _, h⟩
    · exact firstWhere_eq_error.1 h
    · cases h
  · exact fun h => .inl (firstWhere_eq_error.2 h)

theorem findBy_of_findAll {found : Collection}
    (h : (c.findAll criteria attributes).outcome = .ok found) :
    (c.findBy criteria attributes).outcome = .ok (found.records.head?.getD .none) := by
  obtain ⟨p, hp, hw⟩ := Run.outcome_bind_eq_ok.1 h
  obtain ⟨answered, rfl⟩ := allWhere_eq_ok.1 hw
  have kept := Scan.outcome_all_eq_ok.2 ⟨answered, rfl⟩
  exact (findBy_eq_ok_of_predicate hp).2 ⟨_, Scan.outcome_first_of_all kept, rfl⟩

/-- A failure that a search can have: that of its criteria, or that of the check of a record. -/
def FailsAs (c : Collection) (criteria : Value) (attributes : List (String × Value)) (e : Failure) :
    Prop :=
  (Criteria.predicate criteria attributes).outcome = .error e ∨
    ∃ p, (Criteria.predicate criteria attributes).outcome = .ok p ∧
      ∃ r ∈ c.records, ∃ cause, (p.holds r).outcome = .error cause ∧ Scan.failure cause = e

theorem findBy_eq_error {e : Failure} (h : (c.findBy criteria attributes).outcome = .error e) :
    c.FailsAs criteria attributes e := by
  unfold FailsAs
  cases hp : (Criteria.predicate criteria attributes).outcome with
  | error e' =>
    have failed : (c.findBy criteria attributes).outcome = .error e' := Run.outcome_bind_of_error hp _
    rw [failed] at h
    cases h
    exact .inl rfl
  | ok p =>
    obtain ⟨cause, hc, he⟩ := (findBy_eq_error_of_predicate hp).1 h
    obtain ⟨r, hr, hf⟩ := Scan.exists_of_outcome_first_eq_error hc
    exact .inr ⟨p, rfl, r, hr, cause, hf, he⟩

theorem findAll_eq_error {e : Failure} (h : (c.findAll criteria attributes).outcome = .error e) :
    c.FailsAs criteria attributes e := by
  rcases Run.outcome_bind_eq_error.1 h with hp | ⟨p, hp, hw⟩
  · exact .inl hp
  · obtain ⟨cause, hc, he⟩ := allWhere_eq_error.1 hw
    obtain ⟨r, hr, hf⟩ := Scan.exists_of_outcome_all_eq_error hc
    exact .inr ⟨p, hp, r, hr, cause, hf, he⟩

/-! ## What the two searches answer -/

/-- What the searches with criteria that come down to the predicate `p` answer, and where they stop. -/
structure ScansWith (c : Collection) (criteria : Value) (attributes : List (String × Value))
    (p : Predicate) : Prop where
  /-- Finding all answers exactly if every record can be checked: the records that `p` holds of, each as
  often and in the order as it is there. -/
  all_kept : ∀ found, (c.findAll criteria attributes).outcome = .ok found ↔
    (∀ r ∈ c.records, Scan.Answered p.holds r) ∧
      found = c.withRecords (c.records.filter (Scan.passes p.holds))
  first_is_head : ∀ found, (c.findAll criteria attributes).outcome = .ok found →
    (c.findBy criteria attributes).outcome = .ok (found.records.head?.getD .none)
  /-- Finding one answers the record at which it stops, or nothing when every record is refused. -/
  first_stops : ∀ v, (c.findBy criteria attributes).outcome = .ok v ↔
    (v = .none ∧ ∀ r ∈ c.records, Scan.Refused p.holds r) ∨
      ∃ i, Scan.StopsAt p.holds c.records i v
  /-- Whatever stands behind the record at which finding one stops, the run is the same. -/
  rest_ignored : ∀ i r, Scan.StopsAt p.holds c.records i r → ∀ other,
    (c.withRecords (c.records.take (i + 1) ++ other)).findBy criteria attributes =
      c.findBy criteria attributes
  /-- The end of an iteration, signalled by the check of a record that a search comes to, is an error of
  the search. -/
  stop_is_failure : ∀ (i : Nat) r e, c.records[i]? = some r → (p.holds r).outcome = .error e →
    e.kind = .stopIteration →
      ((∀ y ∈ c.records.take i, Scan.Answered p.holds y) →
        (c.findAll criteria attributes).outcome = .error (.scanStopped e)) ∧
      ((∀ y ∈ c.records.take i, Scan.Refused p.holds y) →
        (c.findAll criteria attributes).outcome = .error (.scanStopped e) ∧
          (c.findBy criteria attributes).outcome = .error (.scanStopped e))

theorem findBy_eq_ok_iff_stops (hp : (Criteria.predicate criteria attributes).outcome = .ok p)
    (v : Value) :
    (c.findBy criteria attributes).outcome = .ok v ↔
      (v = .none ∧ ∀ r ∈ c.records, Scan.Refused p.holds r) ∨
        ∃ i, Scan.StopsAt p.holds c.records i v := by
  rw [findBy_eq_ok_of_predicate hp]
  constructor
  · intro h
    obtain ⟨o, ho, rfl⟩ := h
    rcases Scan.outcome_first_eq_ok.1 ho with ⟨rfl, refused⟩ | ⟨i, r, rfl, hs⟩
    · exact .inl ⟨rfl, refused⟩
    · exact .inr ⟨i, hs⟩
  · intro h
    rcases h with ⟨rfl, refused⟩ | ⟨i, hs⟩
    · exact ⟨none, Scan.outcome_first_eq_ok.2 (.inl ⟨rfl, refused⟩), rfl⟩
    · exact ⟨some v, Scan.outcome_first_of_stopsAt hs, rfl⟩

theorem findBy_take_append (hp : (Criteria.predicate criteria attributes).outcome = .ok p) {i : Nat}
    {r : Value} (h : Scan.StopsAt p.holds c.records i r) (other : List Value) :
    (c.withRecords (c.records.take (i + 1) ++ other)).findBy criteria attributes =
      c.findBy criteria attributes := by
  have same : (c.withRecords (c.records.take (i + 1) ++ other)).firstWhere p = c.firstWhere p :=
    congrArg Scan.guarded (Scan.first_take_append h other)
  unfold findBy
  apply Run.ext
  · rw [Run.messages_bind_of_ok hp, Run.messages_bind_of_ok hp, same]
  · rw [Run.outcome_bind_of_ok hp, Run.outcome_bind_of_ok hp, same]

theorem findAll_of_stopIteration (hp : (Criteria.predicate criteria attributes).outcome = .ok p)
    {i : Nat} {r : Value} {e : Failure} (hr : c.records[i]? = some r)
    (he : (p.holds r).outcome = .error e) (stops : e.kind = .stopIteration)
    (answered : ∀ y ∈ c.records.take i, Scan.Answered p.holds y) :
    (c.findAll criteria attributes).outcome = .error (.scanStopped e) := by
  rw [findAll_of_predicate hp, allWhere_eq_error]
  refine ⟨e, ?_, Scan.failure_of_stopIteration stops⟩
  rw [← Scan.take_append_cons_drop hr]
  exact Scan.outcome_all_append_of_error he _ _ answered

theorem findBy_of_stopIteration (hp : (Criteria.predicate criteria attributes).outcome = .ok p)
    {i : Nat} {r : Value} {e : Failure} (hr : c.records[i]? = some r)
    (he : (p.holds r).outcome = .error e) (stops : e.kind = .stopIteration)
    (refused : ∀ y ∈ c.records.take i, Scan.Refused p.holds y) :
    (c.findBy criteria attributes).outcome = .error (.scanStopped e) :=
  (findBy_eq_error_of_predicate hp).2
    ⟨e, Scan.outcome_first_of_error hr refused he, Scan.failure_of_stopIteration stops⟩

/-- The two searches fail as their criteria do, before any record is looked at, or they scan the records
with one and the same predicate. -/
theorem findBy_findAll_scan (c : Collection) (criteria : Value) (attributes : List (String × Value)) :
    (∃ e, (Criteria.predicate criteria attributes).outcome = .error e ∧
        (c.findAll criteria attributes).outcome = .error e ∧
        (c.findBy criteria attributes).outcome = .error e) ∨
      ∃ p, (Criteria.predicate criteria attributes).outcome = .ok p ∧
        c.ScansWith criteria attributes p := by
  cases hp : (Criteria.predicate criteria attributes).outcome with
  | error e =>
    -- the criteria are made into a predicate before any record is looked at
    exact .inl ⟨e, rfl, Run.outcome_bind_of_error hp _, Run.outcome_bind_of_error hp _⟩
  | ok p =>
    refine .inr ⟨p, rfl, ?_, fun found => findBy_of_findAll, findBy_eq_ok_iff_stops hp,
      fun i r => findBy_take_append hp, ?_⟩
    · intro found
      rw [findAll_of_predicate hp]
      exact allWhere_eq_ok
    · intro i r e hr he stops
      refine ⟨findAll_of_stopIteration hp hr he stops, fun refused => ⟨?_, ?_⟩⟩
      · exact findAll_of_stopIteration hp hr he stops fun y hy => (refused y hy).answered
      · exact findBy_of_stopIteration hp hr he stops refused

end

/-- A record that signals the end of an iteration, behind one that does not match: neither search takes
it for the end of the records. -/
theorem search_fails_at_stop :
    let young : Value := .record [("age", .int 22)] []
    let spent : Value := .record [] [("age", .stopIteration)]
    let people : Collection := ⟨.base, [young, spent, young], .none⟩
    let criteria : Value := .dict [(.text "age", .int 30)]
    (people.findAll criteria []).outcome = .error (.scanStopped (.raised .stopIteration "boom age")) ∧
      (people.findBy criteria []).outcome =
        .error (.scanStopped (.raised .stopIteration "boom age")) := by
  intro young spent people criteria
  rcases findBy_findAll_scan people criteria [] with ⟨e, he, _⟩ | ⟨p, hp, scan⟩
  · cases he
  · cases hp
    refine (scan.stop_is_failure 1 spent _ rfl rfl rfl).2 ?_
    intro y hy
    cases List.mem_singleton.1 hy
    rfl

end Collection
end RecordQuery
