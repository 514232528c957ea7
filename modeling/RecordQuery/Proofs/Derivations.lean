import RecordQuery.Collection.Operation
import RecordQuery.Proofs.Brackets
import RecordQuery.Proofs.FinderNames
/-!
Collections derived from a collection, by any chain of searches, lookups, slices, additions and finders,
with edits in between.

Every derivation makes a collection with other records and the same class and finders, or fails for its
search, its key or its records (`spawns_derivation`); an edit changes the records only (`edit_eq`). So all
that is ever reached from a collection differs from it in its records only (`Reaches.eq_withRecords`), and
its finders are those that the first collection was made with (`finders_carried_forward`).
-/

namespace RecordQuery

/-- The ways to derive a collection from another one. -/
inductive Derivation
  | findAll (positional : List Value) (attributes : List (String × Value))
  | lookupAll (key : Value)
  /-- Brackets around a key in a list or tuple of its own. -/
  | plural (wrapper key : Value) (wraps : Collection.wrapped? wrapper = some [key])
  /-- Brackets around a slice. Bounds that no list takes make it a key to be looked up, and one that is out
  of range makes it nothing. -/
  | slice (start stop step : Value) (native : ∀ e, Slice.ofBounds start stop step = .error e →
      e.kind.isType = false ∧ e.kind ≠ .index)
  | add (other : Value)
  /-- A call of a finder name that asks for all records. -/
  | finder (name : String) (n : DynamicName) (parsed : DynamicName.finder? name = some n)
      (all : n.reach = .all) (arguments : List Value)

def Derivation.operation : Derivation → Operation
  | findAll positional attributes => .findAll positional attributes
  | lookupAll key => .lookupAll key
  | plural wrapper _ _ => .item wrapper
  | slice start stop step _ => .item (.slice start stop step)
  | add other => .add other
  | finder name _ _ _ arguments => .query name arguments

namespace Collection

/-- A collection with the class and finders of another one, or a failure of a certain kind. -/
inductive Spawns (c : Collection) (P : Failure → Prop) : Checked Collection → Prop
  | derived (records : List Value) : Spawns c P (.ok (c.withRecords records))
  | failed {e : Failure} (h : P e) : Spawns c P (.error e)

namespace Spawns

variable {c : Collection} {P Q : Failure → Prop}

theorem of_cases {r : Checked Collection}
    (answers : ∀ found, r = .ok found → ∃ records, found = c.withRecords records)
    (fails : ∀ e, r = .error e → P e) : c.Spawns P r := by
  cases r with
  | error e => exact .failed (fails e rfl)
  | ok found =>
    obtain ⟨records, rfl⟩ := answers found rfl
    exact .derived records

theorem mono {r : Checked Collection} (h : c.Spawns P r) (implies : ∀ e, P e → Q e) :
    c.Spawns Q r := by
  cases h with
  | derived records => exact .derived records
  | failed h => exact .failed (implies _ h)

end Spawns

/-! ## Making, adding to and editing a collection -/

section
variable {c : Collection}

theorem make_eq_ok {cls : CollectionClass} {root finders : Value} (h : make cls root finders = .ok c) :
    c.cls = cls ∧ DefaultFinders.ofValue finders = .ok c.finders := by
  unfold make at h
  cases items : root.items with
  | error e =>
    rw [items] at h
    cases h
  | ok records =>
    cases valid : DefaultFinders.ofValue finders with
    | error e =>
      rw [items, valid] at h
      cases h
    | ok names =>
      rw [items, valid] at h
      cases h
      exact ⟨rfl, rfl⟩

theorem add_of_items {other : Value} {items : List Value} (h : other.items = .ok items) :
    c.add other = .ok (c.withRecords (c.records ++ items)) := by
  rw [add, h]
  exact spawn_eq c _

theorem add_of_no_items {other : Value} {cause : Failure} (h : other.items = .error cause) :
    c.add other =
      .error (if cause.kind.isType then .notUnpackable other.builtinClassName else cause) := by
  rw [add, h]
  dsimp only
  split <;> rfl

theorem edit_eq (c : Collection) (e : Edit) : ∃ records, (c.edit e).2 = c.withRecords records := by
  unfold edit
  split
  · exact ⟨_, rfl⟩
  · exact ⟨c.records, rfl⟩

end

/-! ## Faults -/

section
variable [Answers] {c : Collection} {key : Value}

/-- Why a derivation fails: the search cannot be made or a record cannot be checked for it; the key needs
default finders and there are none, or is no slice; what is added cannot be iterated. -/
inductive Fault (c : Collection) : Derivation → Failure → Prop
  | arguments {positional : List Value} {attributes : List (String × Value)} {e : Failure}
    (many : Operation.criteria "find_all" positional = .error e) :
    Fault c (.findAll positional attributes) e
  | search {positional : List Value} {attributes : List (String × Value)} {criteria : Value} {e : Failure}
    (given : Operation.criteria "find_all" positional = .ok criteria)
    (failed : c.FailsAs criteria attributes e) : Fault c (.findAll positional attributes) e
  | lookup {key : Value} {e : Failure} (failed : c.LookupFails key e) : Fault c (.lookupAll key) e
  | unconfigured {key : Value} (cannot : ¬ c.CanLookUp key) :
    Fault c (.lookupAll key) (refusal key)
  | wrapped {wrapper key : Value} {wraps : wrapped? wrapper = some [key]} {e : Failure}
    (failed : c.LookupFails key e) : Fault c (.plural wrapper key wraps) e
  | wrappedUnconfigured {wrapper key : Value} {wraps : wrapped? wrapper = some [key]}
    (cannot : ¬ c.CanLookUp key) : Fault c (.plural wrapper key wraps)
      (.noFindersForBrackets key.className (.notAnIndex wrapper.builtinClassName))
  | bounds {start stop step : Value} {native : _} {e : Failure}
    (failed : Slice.ofBounds start stop step = .error e) : Fault c (.slice start stop step native) e
  | items {other : Value} {cause : Failure} (failed : other.items = .error cause) :
    Fault c (.add other)
      (if cause.kind.isType then .notUnpackable other.builtinClassName else cause)
  | count {name : String} {n : DynamicName} {parsed : _} {all : _} {arguments : List Value}
    (differs : arguments.length ≠ n.attributes.length) :
    Fault c (.finder name n parsed all arguments)
      (.argumentCount n.token n.attributes.length arguments.length)
  | finder {name : String} {n : DynamicName} {parsed : _} {all : _} {arguments : List Value} {e : Failure}
    (failed : c.FailsAs (finderCriteria n.attributes arguments) [] e) :
    Fault c (.finder name n parsed all arguments) e

/-! ## Searches and lookups -/

theorem exists_of_findAll {criteria : Value} {attributes : List (String × Value)} {found : Collection}
    (h : (c.findAll criteria attributes).outcome = .ok found) :
    ∃ records, found = c.withRecords records := by
  obtain ⟨p, _, hw⟩ := Run.outcome_bind_eq_ok.1 h
  exact ⟨_, (allWhere_eq_ok.1 hw).2⟩

theorem exists_of_lookupAll {found : Collection} (h : (c.lookupAll key).outcome = .ok found) :
    ∃ records, found = c.withRecords records := by
  cases query : key.isQuery with
  | true =>
    rw [lookupAll_of_query query] at h
    exact exists_of_findAll h
  | false =>
    unfold lookupAll at h
    rw [query] at h
    obtain ⟨names, _, h⟩ := Run.outcome_bind_eq_ok.1 h
    rcases lookupAllAmong_eq_ok h with ⟨same, _⟩ | ⟨before, finder, after, settled⟩
    · exact ⟨[], same⟩
    · exact exists_of_findAll settled.matched

theorem spawns_findAll (criteria : Value) (attributes : List (String × Value)) :
    c.Spawns (c.FailsAs criteria attributes) (c.findAll criteria attributes).outcome :=
  .of_cases (fun _ => exists_of_findAll) fun _ => findAll_eq_error

theorem spawns_lookupAll (can : c.CanLookUp key) :
    c.Spawns (c.LookupFails key) (c.lookupAll key).outcome :=
  .of_cases (fun _ => exists_of_lookupAll) (lookupAll_fails can)

/-! ## One derivation -/

def derive (c : Collection) (d : Derivation) : Checked Value := (d.operation.answer c).outcome

theorem answer_of_wrapped {wrapper : Value} (wraps : wrapped? wrapper = some [key]) :
    (c.getItem wrapper).outcome =
      (c.getQuery wrapper (.notAnIndex wrapper.builtinClassName)).outcome := by
  have rejected : Sequence.get c.records wrapper = .error (.notAnIndex wrapper.builtinClassName) := by
    unfold wrapped? at wraps
    split at wraps
    · rfl
    · rfl
    · cases wraps
  rw [getItem_of_rejected rejected rfl]

theorem answer_of_slice {start stop step : Value} {s : Slice}
    (bounds : Slice.ofBounds start stop step = .ok s) :
    (c.getItem (.slice start stop step)).outcome = .ok (c.withRecords (s.read c.records)).toValue := by
  have selected : Sequence.get c.records (.slice start stop step) = .ok (.part (s.read c.records)) := by
    show (Sequence.Key.slice <$> Slice.ofBounds start stop step) >>= Sequence.select c.records = _
    rw [bounds]
    rfl
  simp only [getItem, selected, spawn_eq]
  rfl

theorem answer_of_bad_slice {start stop step : Value} {e : Failure}
    (bounds : Slice.ofBounds start stop step = .error e)
    (native : e.kind.isType = false ∧ e.kind ≠ .index) :
    (c.getItem (.slice start stop step)).outcome = .error e := by
  have rejected : Sequence.get c.records (.slice start stop step) = .error e := by
    show (Sequence.Key.slice <$> Slice.ofBounds start stop step) >>= Sequence.select c.records = _
    rw [bounds]
    rfl
  simp only [getItem, rejected]
  rw [if_neg native.2, native.1]
  rfl

theorem callFinder_of_all {n : DynamicName} {arguments : List Value}
    (count : arguments.length = n.attributes.length) (all : n.reach = .all) :
    (c.callFinder n arguments).outcome =
      (c.findAll (finderCriteria n.attributes arguments) []).outcome.map toValue := by
  rw [callFinder, if_neg (by simp [count])]
  simp only [all]
  rw [Run.outcome_bind_of_ok rfl]
  exact outcome_toValue _

theorem derive_findAll {positional : List Value} {criteria : Value}
    (given : Operation.criteria "find_all" positional = .ok criteria) (attributes : List (String × Value)) :
    c.derive (.findAll positional attributes) = (c.findAll criteria attributes).outcome.map toValue := by
  show (Run.ofChecked (Operation.criteria "find_all" positional) >>= _).outcome = _
  rw [given]
  exact outcome_toValue _

theorem derive_findAll_of_error {positional : List Value} {e : Failure}
    (many : Operation.criteria "find_all" positional = .error e) (attributes : List (String × Value)) :
    c.derive (.findAll positional attributes) = .error e := by
  show (Run.ofChecked (Operation.criteria "find_all" positional) >>= _).outcome = _
  rw [many]
  rfl

theorem derive_finder {name : String} {n : DynamicName} (parsed : DynamicName.finder? name = some n)
    (all : n.reach = .all) (arguments : List Value) :
    c.derive (.finder name n parsed all arguments) = (c.callFinder n arguments).outcome :=
  congrArg Run.outcome (query_of_finder? parsed arguments)

/-- Every derivation makes a collection with the class and finders of the one that it is derived from, or
has a fault. -/
theorem spawns_derivation (c : Collection) (d : Derivation) :
    ∃ r, c.derive d = r.map toValue ∧ c.Spawns (c.Fault d) r := by
  cases d with
  | findAll positional attributes =>
    cases given : Operation.criteria "find_all" positional with
    | error e => exact ⟨.error e, derive_findAll_of_error given attributes, .failed (.arguments given)⟩
    | ok criteria =>
      refine ⟨(c.findAll criteria attributes).outcome, derive_findAll given attributes, ?_⟩
      exact (spawns_findAll criteria attributes).mono fun e => .search given
  | lookupAll key =>
    refine ⟨(c.lookupAll key).outcome, outcome_toValue _, ?_⟩
    by_cases can : c.CanLookUp key
    · exact (spawns_lookupAll can).mono fun e => .lookup
    · rw [lookupAll_of_not_canLookUp can]
      exact .failed (.unconfigured can)
  | plural wrapper key wraps =>
    by_cases can : c.CanLookUp key
    · refine ⟨(c.lookupAll key).outcome, ?_, ?_⟩
      · -- brackets around a wrapped key are the plural lookup
        exact (answer_of_wrapped wraps).trans (getQuery_of_wrapped wraps can)
      · exact (spawns_lookupAll can).mono fun e => .wrapped
    · refine ⟨.error _, ?_, .failed (.wrappedUnconfigured can)⟩
      exact (answer_of_wrapped wraps).trans ((LooksUp.plural wraps).getQuery_eq_error can)
  | slice start stop step native =>
    cases bounds : Slice.ofBounds start stop step with
    | ok s => exact ⟨.ok (c.withRecords (s.read c.records)), answer_of_slice bounds, .derived _⟩
    | error e =>
      exact ⟨.error e, answer_of_bad_slice bounds (native e bounds), .failed (.bounds bounds)⟩
  | add other =>
    refine ⟨c.add other, ?_, ?_⟩
    · show (do return (← c.add other).toValue : Checked Value) = _
      cases c.add other <;> rfl
    · cases items : other.items with
      | ok xs =>
        rw [add_of_items items]
        exact .derived _
      | error cause =>
        rw [add_of_no_items items]
        exact .failed (.items items)
  | finder name n parsed all arguments =>
    rw [derive_finder]
    by_cases count : arguments.length = n.attributes.length
    · refine ⟨_, callFinder_of_all count all, ?_⟩
      exact (spawns_findAll _ []).mono fun e => .finder
    · exact ⟨.error _, callFinder_of_count_ne count, .failed (.count count)⟩

/-! ## Chains of derivations and edits -/

/-- What a collection comes to by edits, and what is derived from it by derivations, in any order. -/
inductive Reaches (c : Collection) : Collection → Prop
  | refl : Reaches c c
  | edit {d : Collection} (reached : Reaches c d) (e : Edit) : Reaches c (d.edit e).2
  | derive {d d' : Collection} (reached : Reaches c d) (derivation : Derivation)
    (answer : d.derive derivation = .ok d'.toValue) : Reaches c d'

theorem derive_eq_ok {derivation : Derivation} {v : Value} (answer : c.derive derivation = .ok v) :
    ∃ records, v = (c.withRecords records).toValue := by
  obtain ⟨r, same, spawns⟩ := spawns_derivation c derivation
  rw [same] at answer
  cases spawns with
  | failed => cases answer
  | derived records =>
    cases answer
    exact ⟨records, rfl⟩

theorem Reaches.eq_withRecords {d : Collection} (h : c.Reaches d) : ∃ records, d = c.withRecords records := by
  induction h with
  | refl => exact ⟨c.records, rfl⟩
  | edit reached e ih =>
    obtain ⟨records, rfl⟩ := ih
    exact edit_eq (c.withRecords records) e
  | derive reached derivation answer ih =>
    obtain ⟨records, rfl⟩ := ih
    obtain ⟨derived, same⟩ := derive_eq_ok answer
    exact ⟨derived, toValue_inj same⟩

/-- What is carried forward from a collection, made of a class with finders that were asked for, to another
one. -/
structure CarriesForward (c : Collection) (cls : CollectionClass) (finders : Value) (d : Collection) :
    Prop where
  class_eq : d.cls = cls
  finders_eq : d.finders = c.finders
  /-- They are the names that were asked for, all of them, and none of them is empty. -/
  asked : DefaultFinders.Asked finders d.finders.names
  nonempty : ∀ name ∈ d.finders.names, name ≠ ""
  /-- The validation that they go through again does not fail. -/
  revalidated : DefaultFinders.ofValue d.finders.toValue = .ok d.finders
  /-- Every further derivation carries them forward, or fails for its search, its key or its records. -/
  derives : ∀ derivation : Derivation,
    (∃ records, d.derive derivation = .ok (d.withRecords records).toValue) ∨
      ∃ e, d.derive derivation = .error e ∧ d.Fault derivation e

/-- Default finders are carried forward through every chain of derivations and edits. -/
theorem finders_carried_forward {cls : CollectionClass} {root finders : Value} {d : Collection}
    (made : make cls root finders = .ok c) (reached : c.Reaches d) : c.CarriesForward cls finders d := by
  obtain ⟨records, rfl⟩ := reached.eq_withRecords
  obtain ⟨class_eq, valid⟩ := make_eq_ok made
  refine ⟨class_eq, rfl, DefaultFinders.asked_of_ofValue valid, c.finders.names_ne_empty,
    DefaultFinders.ofValue_toValue c.finders, ?_⟩
  intro derivation
  obtain ⟨r, same, spawns⟩ := spawns_derivation (c.withRecords records) derivation
  cases spawns with
  | derived derived => exact .inl ⟨derived, same⟩
  | failed fault => exact .inr ⟨_, same, fault⟩

end

/-- A record is appended to a collection of another class, and all records with a text are looked up in
what the collection is then. -/
theorem finders_after_append_and_lookup :
    let page : Value := .record [("a", .text "x")] []
    let cls : CollectionClass := .derived "PageCollection"
    let c : Collection := ⟨cls, [], DefaultFinders.ofNames ["a"]⟩
    let d : Collection := c.withRecords [page]
    make cls (.list []) (.text "a") = .ok c ∧
      ((c.edit (.append page)).2.lookupAll (.text "x")).outcome = .ok d ∧
      d.cls = cls ∧ d.finders.names = ["a"] ∧
      DefaultFinders.ofValue d.finders.toValue = .ok d.finders := by
  intro page cls c d
  have made : make cls (.list []) (.text "a") = .ok c := rfl
  have looked : ((c.edit (.append page)).2.lookupAll (.text "x")).outcome = .ok d := rfl
  have reached : c.Reaches d := by
    refine .derive (.edit .refl (.append page)) (.lookupAll (.text "x")) ?_
    exact (outcome_toValue _).trans (congrArg (Except.map toValue) looked)
  have carried : c.CarriesForward cls (.text "a") d := finders_carried_forward made reached
  exact ⟨made, looked, carried.class_eq, carried.asked, carried.revalidated⟩

end Collection
end RecordQuery
