import RecordQuery.Collection.Lookup
import RecordQuery.Proofs.Finding
/-!
Looking up one record for a key against looking up all records for it.

Both lookups go through the default finders in step: a finder that matches no record passes the key on in
both, and the first finder that matches some settles the lookup for all records (`SettledBy`). The lookup
for one record answers the first of them, with one exception: a match that is itself nothing does not
count, and the finders behind it go on (`lookupAmong_of_settled`). Brackets agree in the same way
(`single_of_plural`).
-/

namespace RecordQuery
namespace Collection

def finderEntry (finder : String) (key : Value) : Value := .dict [(.text finder, key)]

theorem toValue_inj {c d : Collection} (h : c.toValue = d.toValue) : c = d := by
  cases c; cases d; cases h; rfl

/-! ## What a lookup by finders requires -/

/-- What looking up a key without default finders fails with: that there are none, or why the key cannot be
printed. -/
def refusal (key : Value) : Failure :=
  match key.repr with
  | .ok printed => .noFinders printed
  | .error fault => fault.failure

theorem requireFinders_eq (c : Collection) (key : Value) : c.requireFinders key =
    if c.finders.names.isEmpty then .error (refusal key) else .ok c.finders.names := by
  unfold requireFinders refusal
  cases key.repr <;> rfl

theorem kind_refusal_iff {key : Value} : (refusal key).kind = .unsupportedKey ↔
    ∀ fault, key.repr = .error fault → fault.kind = .unsupportedKey := by
  unfold refusal
  cases key.repr with
  | ok text => exact ⟨fun _ => nofun, fun _ => rfl⟩
  | error fault =>
    constructor
    · rintro kind _ ⟨⟩
      exact kind
    · exact fun kind => kind fault rfl

theorem names_of_requireFinders {c : Collection} {key : Value} {names : List String}
    (h : c.requireFinders key = .ok names) :
    names = c.finders.names := by
  rw [requireFinders_eq] at h
  split at h
  · cases h
  · cases h; rfl

/-- Whether a key can be looked up: it is a query, or there are default finders. -/
def CanLookUp (c : Collection) (key : Value) : Prop :=
  key.isQuery ∨ c.finders.names.isEmpty = false

theorem canLookUp_of_requireFindersFor {c : Collection} {key : Value} {native : Failure}
    {u : Unit} (h : c.requireFindersFor key native = .ok u) : c.CanLookUp key := by
  unfold requireFindersFor at h
  split at h
  · cases h
  · rename_i some_names
    exact .inr (by simpa using some_names)

theorem requireFindersFor_of_canLookUp {c : Collection} {key : Value} {native : Failure}
    (h : c.CanLookUp key) (hq : key.isQuery = false) : c.requireFindersFor key native = .ok () := by
  rcases h with query | some_names
  · rw [hq] at query; cases query
  · unfold requireFindersFor
    rw [some_names]
    rfl

section
variable [Answers] {c : Collection} {key : Value}

/-- A finder with which no record matches the key, and every record can be checked. -/
def MatchesNone (c : Collection) (key : Value) (finder : String) : Prop :=
  (c.findAll (finderEntry finder key) []).outcome = .ok (c.withRecords [])

/-- The finder that settles the lookup for all records: those before it match none, and it matches the
records of `found`, which are some. -/
structure SettledBy (c : Collection) (key : Value) (found : Collection) (names : List String)
    (before : List String) (finder : String) (after : List String) : Prop where
  split : names = before ++ finder :: after
  passed_on : ∀ f ∈ before, c.MatchesNone key f
  matched : (c.findAll (finderEntry finder key) []).outcome = .ok found
  nonempty : found.records ≠ []

/-- What is found by a finder, if it is no record, is the empty collection of the same class and
finders. -/
theorem matchesNone_of_isEmpty {finder : String} {found : Collection}
    (h : (c.findAll (finderEntry finder key) []).outcome = .ok found)
    (empty : found.records.isEmpty) : c.MatchesNone key finder := by
  obtain ⟨p, _, hw⟩ := Run.outcome_bind_eq_ok.1 h
  obtain ⟨_, rfl⟩ := allWhere_eq_ok.1 hw
  have nothing : c.records.filter (Scan.passes p.holds) = [] := List.isEmpty_iff.1 empty
  rw [nothing] at h
  exact h

/-! ## One step of each lookup -/

theorem lookupAmong_cons_of_none {finder : String} {rest : List String}
    (h : (c.findBy (finderEntry finder key) []).outcome = .ok .none) :
    (c.lookupAmong key (finder :: rest)).outcome = (c.lookupAmong key rest).outcome :=
  Run.outcome_bind_of_ok h _

theorem lookupAmong_cons_of_record {finder : String} {rest : List String} {r : Value}
    (h : (c.findBy (finderEntry finder key) []).outcome = .ok r) (hr : r ≠ .none) :
    (c.lookupAmong key (finder :: rest)).outcome = .ok r := by
  rw [lookupAmong]
  refine (Run.outcome_bind_of_ok h _).trans ?_
  cases r with
  | none => exact absurd rfl hr
  | _ => rfl

theorem findBy_of_matchesNone {finder : String} (h : c.MatchesNone key finder) :
    (c.findBy (finderEntry finder key) []).outcome = .ok .none := findBy_of_findAll h

theorem lookupAllAmong_nil : (c.lookupAllAmong key []).outcome = .ok (c.withRecords []) := by
  rw [lookupAllAmong, Run.outcome_ofChecked, spawn_eq]

theorem lookupAllAmong_cons_of_none {finder : String} {rest : List String}
    (h : c.MatchesNone key finder) :
    (c.lookupAllAmong key (finder :: rest)).outcome = (c.lookupAllAmong key rest).outcome :=
  Run.outcome_bind_of_ok h _

theorem lookupAllAmong_cons_of_some {finder : String} {rest : List String} {found : Collection}
    (h : (c.findAll (finderEntry finder key) []).outcome = .ok found) (some : found.records ≠ []) :
    (c.lookupAllAmong key (finder :: rest)).outcome = .ok found := by
  rw [lookupAllAmong]
  refine (Run.outcome_bind_of_ok h _).trans ?_
  rw [if_neg fun empty => some (List.isEmpty_iff.1 empty)]
  rfl

theorem lookupAllAmong_cons_of_error {finder : String} {rest : List String} {e : Failure}
    (h : (c.findAll (finderEntry finder key) []).outcome = .error e) :
    (c.lookupAllAmong key (finder :: rest)).outcome = .error e :=
  Run.outcome_bind_of_error h _

theorem lookupAmong_append (before rest : List String) (h : ∀ f ∈ before, c.MatchesNone key f) :
    (c.lookupAmong key (before ++ rest)).outcome = (c.lookupAmong key rest).outcome := by
  induction before with
  | nil => rfl
  | cons f before ih =>
    obtain ⟨hf, others⟩ := List.forall_mem_cons.1 h
    rw [List.cons_append, lookupAmong_cons_of_none (findBy_of_matchesNone hf), ih others]

/-! ## The lookups through all finders -/

/-- A lookup for all records that answers is settled by a finder, or no finder matches any record. -/
theorem lookupAllAmong_eq_ok {found : Collection} {names : List String}
    (h : (c.lookupAllAmong key names).outcome = .ok found) :
    (found = c.withRecords [] ∧ ∀ f ∈ names, c.MatchesNone key f) ∨
      ∃ before finder after, c.SettledBy key found names before finder after := by
  induction names with
  | nil =>
    rw [lookupAllAmong_nil] at h
    cases h
    exact .inl ⟨rfl, by simp⟩
  | cons finder rest ih =>
    rw [lookupAllAmong] at h
    obtain ⟨first, hf, hr⟩ := Run.outcome_bind_eq_ok.1 h
    by_cases empty : first.records.isEmpty
    · -- no match: whatever settles the lookup by the finders behind settles it
      rw [if_pos empty] at hr
      have none := matchesNone_of_isEmpty hf empty
      rcases ih hr with ⟨rfl, rest_none⟩ | ⟨before, g, after, settled⟩
      · exact .inl ⟨rfl, List.forall_mem_cons.2 ⟨none, rest_none⟩⟩
      · refine .inr ⟨finder :: before, g, after, ?_, ?_, settled.matched, settled.nonempty⟩
        · rw [settled.split]; rfl
        · exact List.forall_mem_cons.2 ⟨none, settled.passed_on⟩
    · -- some match: this finder settles it
      rw [if_neg empty] at hr
      cases hr
      exact .inr ⟨[], finder, rest, rfl, by simp, hf, fun nil => empty (List.isEmpty_iff.2 nil)⟩

/-- The lookup for one record answers the first record that settles the lookup for all, unless that
record is nothing: then the finders behind the one that settled it go on. -/
theorem lookupAmong_of_settled {found : Collection} {names before after : List String}
    {finder : String} (h : c.SettledBy key found names before finder after) :
    (found.records.head? ≠ some .none →
      (c.lookupAmong key names).outcome = .ok (found.records.head?.getD .none)) ∧
    (found.records.head? = some .none →
      (c.lookupAmong key names).outcome = (c.lookupAmong key after).outcome) := by
  have head := findBy_of_findAll h.matched
  rw [h.split, lookupAmong_append before _ h.passed_on]
  cases hr : found.records with
  | nil => exact absurd hr h.nonempty
  | cons r rest =>
    rw [hr] at head
    simp only [List.head?_cons, Option.getD_some] at head ⊢
    constructor
    · intro hne
      exact lookupAmong_cons_of_record head fun none => hne (congrArg some none)
    · intro none
      cases none
      exact lookupAmong_cons_of_none head

/-! ## One record against all records -/

/-- What asking for one record comes to, where asking for all records for the key answered `found`: its
first record, or nothing. Only a lookup by finders passes over a first record that is nothing: then it is
what the finders behind the one that settled the lookup for all come to. -/
structure FirstOf (c : Collection) (key : Value) (found : Collection) (single : Run Value) : Prop where
  head : key.isQuery ∨ found.records.head? ≠ some .none →
    single.outcome = .ok (found.records.head?.getD .none)
  passed_over : key.isQuery = false → found.records.head? = some .none →
    ∃ before finder after, c.SettledBy key found c.finders.names before finder after ∧
      single.outcome = (c.lookupAmong key after).outcome

theorem lookup_of_query (h : key.isQuery) : c.lookup key = c.findBy key [] := if_pos h

theorem lookupAll_of_query (h : key.isQuery) : c.lookupAll key = c.findAll key [] := if_pos h

theorem lookup_of_finders {names : List String} (h : key.isQuery = false)
    (hf : c.requireFinders key = .ok names) :
    (c.lookup key).outcome = (c.lookupAmong key names).outcome := by
  unfold lookup
  rw [h, hf]
  exact Run.outcome_bind_of_ok rfl _

theorem lookup_of_lookupAll {found : Collection} (h : (c.lookupAll key).outcome = .ok found) :
    c.FirstOf key found (c.lookup key) := by
  cases hq : key.isQuery with
  | true =>
    rw [lookupAll_of_query hq] at h
    refine ⟨fun _ => ?_, fun no => absurd hq (by simp [no])⟩
    rw [lookup_of_query hq]
    exact findBy_of_findAll h
  | false =>
    unfold lookupAll at h
    rw [hq] at h
    obtain ⟨names, hn, h⟩ := Run.outcome_bind_eq_ok.1 h
    rw [Run.outcome_ofChecked] at hn
    have single := lookup_of_finders hq hn
    have all_names := names_of_requireFinders hn
    rcases lookupAllAmong_eq_ok h with ⟨rfl, none⟩ | ⟨before, finder, after, settled⟩
    · -- no finder matches any record, so that none matches a first one
      refine ⟨fun _ => ?_, fun _ nothing => by cases nothing⟩
      rw [single, ← List.append_nil names, lookupAmong_append names [] none]
      rfl
    · -- the settling finder settles both, unless the first record it finds is nothing
      obtain ⟨of_record, of_nothing⟩ := lookupAmong_of_settled settled
      rw [← single] at of_record of_nothing
      refine ⟨?_, fun _ nothing => ?_⟩
      · intro h
        rcases h with query | record
        · rw [hq] at query; cases query
        · exact of_record record
      · rw [← all_names]
        exact ⟨before, finder, after, settled, of_nothing nothing⟩

/-! ## Brackets -/

theorem getItem_of_rejected {native : Failure} (h : Sequence.get c.records key = .error native)
    (type : native.kind.isType) : c.getItem key = c.getQuery key native := by
  have not_index : native.kind ≠ .index := by
    intro index
    rw [index] at type
    cases type
  simp only [getItem, h]
  rw [if_neg not_index, if_pos type]

theorem getQuery_of_canLookUp {native : Failure} (plain : wrapped? key = none)
    (h : c.CanLookUp key) : (c.getQuery key native).outcome = (c.lookup key).outcome := by
  simp only [getQuery, plain]
  cases hq : key.isQuery with
  | true => rw [if_pos rfl, lookup_of_query hq]
  | false =>
    rw [if_neg (by simp)]
    exact Run.outcome_bind_of_ok (requireFindersFor_of_canLookUp h hq) _

theorem lookupAll_of_getQuery {native : Failure} {inner answer : Value}
    (wraps : wrapped? key = some [inner]) (h : (c.getQuery key native).outcome = .ok answer) :
    c.CanLookUp inner ∧ ∃ found, (c.lookupAll inner).outcome = .ok found ∧ answer = found.toValue := by
  simp only [getQuery, wraps] at h
  cases hq : inner.isQuery with
  | true =>
    rw [hq, if_pos rfl] at h
    obtain ⟨found, hf, ha⟩ := Run.outcome_bind_eq_ok.1 h
    cases ha
    exact ⟨.inl hq, found, by rw [lookupAll_of_query hq, hf], rfl⟩
  | false =>
    rw [hq, if_neg (by simp)] at h
    obtain ⟨_, hn, h⟩ := Run.outcome_bind_eq_ok.1 h
    obtain ⟨found, hf, ha⟩ := Run.outcome_bind_eq_ok.1 h
    cases ha
    exact ⟨canLookUp_of_requireFindersFor hn, found, hf, rfl⟩

/-- One record against all records, by lookups and by brackets with a key that lists reject and that is
no wrapper itself. -/
theorem single_of_plural (c : Collection) (key : Value) :
    (∀ found, (c.lookupAll key).outcome = .ok found → c.FirstOf key found (c.lookup key)) ∧
    ∀ native answer, Sequence.get c.records key = .error native → native.kind.isType →
      wrapped? key = none → (c.getItem (.list [key])).outcome = .ok answer →
        ∃ found, answer = found.toValue ∧ c.FirstOf key found (c.getItem key) := by
  refine ⟨fun found => lookup_of_lookupAll, ?_⟩
  intro native answer rejected type plain h
  have rejected_wrapper : Sequence.get c.records (.list [key]) = .error (.notAnIndex "list") := rfl
  rw [getItem_of_rejected rejected_wrapper rfl] at h
  obtain ⟨can, found, hf, rfl⟩ := lookupAll_of_getQuery rfl h
  obtain ⟨head, passed_over⟩ := lookup_of_lookupAll hf
  refine ⟨found, rfl, ?_, ?_⟩
  all_goals rw [getItem_of_rejected rejected type, getQuery_of_canLookUp plain can]
  · exact head
  · exact passed_over

end

/-- An object and a record that is nothing; `b` is tried after `a`. -/
def withNothing : Collection :=
  ⟨.base, [.record [("a", .int 1)] [], .none], ⟨["a", "b"], by decide⟩⟩

/-- One record is not always the first of all records, by lookups and by brackets: nothing matches itself
by the first finder, but as a match it does not count, and the second finder matches the object. -/
theorem single_is_not_head :
    (¬ ∀ (c : Collection) (key : Value) (found : Collection),
      (c.lookupAll key).outcome = .ok found →
        (c.lookup key).outcome = .ok (found.records.head?.getD .none)) ∧
    ¬ ∀ (c : Collection) (key : Value) (native : Failure) (found : Collection),
      Sequence.get c.records key = .error native → native.kind.isType → wrapped? key = none →
        (c.getItem (.list [key])).outcome = .ok found.toValue →
          (c.getItem key).outcome = .ok (found.records.head?.getD .none) := by
  constructor
  · intro h
    have answers := h withNothing .none (withNothing.withRecords [.none]) rfl
    cases answers
  · intro h
    have answers := h withNothing .none _ (withNothing.withRecords [.none]) rfl rfl rfl rfl
    cases answers

/-- Looking up a text: both finders match a record, and the first one settles both lookups. -/
theorem single_of_plural_text :
    let pages : Collection :=
      ⟨.base, [.record [("a", .int 2), ("b", .int 1)] [], .record [("a", .text "x")] [],
        .record [("b", .text "x")] [], .none], ⟨["a", "b"], by decide⟩⟩
    let found := pages.withRecords [.record [("a", .text "x")] []]
    (pages.lookupAll (.text "x")).outcome = .ok found ∧
      (pages.lookup (.text "x")).outcome = .ok (.record [("a", .text "x")] []) ∧
      (pages.getItem (.text "x")).outcome = .ok (.record [("a", .text "x")] []) := by
  intro pages found
  obtain ⟨by_lookup, by_brackets⟩ := single_of_plural pages (.text "x")
  refine ⟨rfl, (by_lookup found rfl).head (.inr ?_), ?_⟩
  · intro nothing; cases nothing
  · obtain ⟨found', same, first⟩ := by_brackets (.notAnIndex "str") found.toValue rfl rfl rfl rfl
    rw [← toValue_inj same] at first
    exact first.head (.inr fun nothing => by cases nothing)

end Collection
end RecordQuery
