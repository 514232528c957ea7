import RecordQuery.Proofs.Derivations
import RecordQuery.Proofs.PluralLookup
/-!
Looking up all records in two collections put together.

A search finds in both what it finds in each of them, one behind the other (`findAll_join`). A lookup by
default finders does so only where the same finder wins in both; else the collection in which an earlier
finder wins has all records that are found (`wonRecords_join_of_lt`, `wonRecords_join_of_gt`). It answers if
it answers in each of the collections: the winner in both of them together is a winner in one of them, so
that no finder is tried that was not tried there (`lookupAllAmong_join`).
-/

namespace RecordQuery
namespace Collection

def join (c d : Collection) : Collection := c.withRecords (c.records ++ d.records)

theorem add_toValue (c d : Collection) : c.add d.toValue = .ok (c.join d) := add_of_items rfl

section
variable [Answers] {c d : Collection} {key : Value} {finder : String} {names : List String}
  {found₁ found₂ : Collection}

/-! ## A search in both collections -/

theorem findAll_join {criteria : Value} {attributes : List (String × Value)}
    (h₁ : (c.findAll criteria attributes).outcome = .ok found₁)
    (h₂ : (d.findAll criteria attributes).outcome = .ok found₂) :
    ((c.join d).findAll criteria attributes).outcome =
      .ok (c.withRecords (found₁.records ++ found₂.records)) := by
  obtain ⟨p, hp, first⟩ := Run.outcome_bind_eq_ok.1 h₁
  rw [findAll_of_predicate hp] at h₁ h₂ ⊢
  obtain ⟨answered₁, rfl⟩ := allWhere_eq_ok.1 h₁
  obtain ⟨answered₂, rfl⟩ := allWhere_eq_ok.1 h₂
  refine allWhere_eq_ok.2 ⟨fun r listed => ?_, ?_⟩
  · rcases List.mem_append.1 listed with listed | listed
    · exact answered₁ r listed
    · exact answered₂ r listed
  · show c.withRecords _ = c.withRecords ((c.records ++ d.records).filter (Scan.passes p.holds))
    rw [List.filter_append]
    rfl

/-! ## One finder in both collections -/

theorem matchedBy_join :
    (c.join d).matchedBy key finder = c.matchedBy key finder ++ d.matchedBy key finder :=
  List.filter_append _ _

theorem checks_join : (c.join d).Checks key finder ↔ c.Checks key finder ∧ d.Checks key finder := by
  constructor
  · intro ⟨m, classified, answered⟩
    exact ⟨⟨m, classified, fun r listed => answered r (List.mem_append_left _ listed)⟩,
      m, classified, fun r listed => answered r (List.mem_append_right _ listed)⟩
  · intro ⟨⟨m, classified, answered₁⟩, m', classified', answered₂⟩
    -- the key is classified without a look at the records
    have same : m' = m := Except.ok.inj (classified'.symm.trans classified)
    subst same
    refine ⟨m', classified, fun r listed => ?_⟩
    rcases List.mem_append.1 listed with listed | listed
    · exact answered₁ r listed
    · exact answered₂ r listed

/-! ## The winner in both collections -/

theorem winner_join :
    (c.join d).winner key names = min (c.winner key names) (d.winner key names) := by
  induction names with
  | nil => rfl
  | cons finder rest ih =>
    by_cases none₁ : c.matchedBy key finder = []
    · by_cases none₂ : d.matchedBy key finder = []
      · have none : (c.join d).matchedBy key finder = [] := by rw [matchedBy_join, none₁, none₂]; rfl
        rw [winner_cons_of_no_match none, winner_cons_of_no_match none₁, winner_cons_of_no_match none₂, ih]
        omega
      · have some : (c.join d).matchedBy key finder ≠ [] := by simp [matchedBy_join, none₂]
        rw [winner_cons_of_match some, winner_cons_of_match none₂, Nat.min_zero]
    · have some : (c.join d).matchedBy key finder ≠ [] := by simp [matchedBy_join, none₁]
      rw [winner_cons_of_match some, winner_cons_of_match none₁, Nat.zero_min]

/-- Where an earlier finder wins in the first collection, no record of the second one is among the found. -/
theorem wonRecords_join_of_lt (h : c.winner key names < d.winner key names) :
    (c.join d).wonRecords key names = c.wonRecords key names := by
  rw [wonRecords, winner_join, Nat.min_eq_left (Nat.le_of_lt h), wonRecords]
  cases won : names[c.winner key names]? with
  | none => rfl
  | some finder =>
    have none : d.matchedBy key finder = [] := matchedBy_of_lt_winner h won
    rw [Option.elim_some, Option.elim_some, matchedBy_join, none, List.append_nil]

theorem wonRecords_join_of_gt (h : d.winner key names < c.winner key names) :
    (c.join d).wonRecords key names = d.wonRecords key names := by
  rw [wonRecords, winner_join, Nat.min_eq_right (Nat.le_of_lt h), wonRecords]
  cases won : names[d.winner key names]? with
  | none => rfl
  | some finder =>
    have none : c.matchedBy key finder = [] := matchedBy_of_lt_winner h won
    rw [Option.elim_some, Option.elim_some, matchedBy_join, none, List.nil_append]

theorem wonRecords_join_of_eq (h : c.winner key names = d.winner key names) :
    (c.join d).wonRecords key names = c.wonRecords key names ++ d.wonRecords key names := by
  rw [wonRecords, winner_join, ← h, Nat.min_self, wonRecords, wonRecords, ← h]
  cases names[c.winner key names]? with
  | none => rfl
  | some finder => exact matchedBy_join

/-! ## A lookup in both collections -/

theorem lookupAllAmong_join (h₁ : (c.lookupAllAmong key names).outcome = .ok found₁)
    (h₂ : (d.lookupAllAmong key names).outcome = .ok found₂) :
    ((c.join d).lookupAllAmong key names).outcome =
      .ok (c.withRecords ((c.join d).wonRecords key names)) := by
  obtain ⟨checks₁, _⟩ := lookupAllAmong_eq_ok_iff.1 h₁
  obtain ⟨checks₂, _⟩ := lookupAllAmong_eq_ok_iff.1 h₂
  refine lookupAllAmong_eq_ok_iff.2 ⟨fun f tried => ?_, rfl⟩
  -- the finders up to the first of both winners were tried in both collections
  rw [winner_join] at tried
  exact checks_join.2
    ⟨checks₁ f (List.take_subset_take_left _ (by omega) tried),
      checks₂ f (List.take_subset_take_left _ (by omega) tried)⟩

/-- What is found for a key in two collections put together, where `found₁` and `found₂` are found for it in
each of them. -/
structure JoinedLookup (c d : Collection) (key : Value) (found₁ found₂ found : Collection) : Prop where
  class_eq : found.cls = c.cls
  finders_eq : found.finders = c.finders
  of_query : key.isQuery → found.records = found₁.records ++ found₂.records
  first_wins : key.isQuery = false →
    c.winner key c.finders.names < d.winner key d.finders.names → found.records = found₁.records
  second_wins : key.isQuery = false →
    d.winner key d.finders.names < c.winner key c.finders.names → found.records = found₂.records
  both_win : key.isQuery = false →
    c.winner key c.finders.names = d.winner key d.finders.names →
      found.records = found₁.records ++ found₂.records
  /-- Of both collections all records are found that match by the first finder by which some record does, and
  no others. -/
  of_winner : key.isQuery = false → ∀ finder,
    c.finders.names[min (c.winner key c.finders.names) (d.winner key d.finders.names)]? = some finder →
      found.records = (c.records ++ d.records).filter fun r => Search.meets r (finder, key)

/-- Looking up all records in two collections with the same default finders put together answers if it does in
each of them. -/
theorem lookupAll_joined (same : d.finders = c.finders) (h₁ : (c.lookupAll key).outcome = .ok found₁)
    (h₂ : (d.lookupAll key).outcome = .ok found₂) :
    ∃ joined found, c.add d.toValue = .ok joined ∧ (joined.lookupAll key).outcome = .ok found ∧
      c.JoinedLookup d key found₁ found₂ found := by
  refine ⟨c.join d, ?_⟩
  cases query : key.isQuery with
  | true =>
    rw [lookupAll_of_query query] at h₁ h₂ ⊢
    refine ⟨_, add_toValue c d, findAll_join h₁ h₂, rfl, rfl, fun _ => rfl, ?_, ?_, ?_, ?_⟩
    all_goals
      -- the other parts are about keys that are no query
      intro none
      rw [query] at none
      cases none
  | false =>
    have can : c.CanLookUp key := canLookUp_of_lookupAll h₁
    rw [lookupAll_of_canLookUp query can] at h₁
    rw [lookupAll_of_canLookUp query (canLookUp_of_lookupAll h₂), same] at h₂
    have joined : ((c.join d).lookupAll key).outcome =
        .ok (c.withRecords ((c.join d).wonRecords key c.finders.names)) := by
      have can_join : (c.join d).CanLookUp key := can
      rw [lookupAll_of_canLookUp query can_join]
      exact lookupAllAmong_join h₁ h₂
    -- what each lookup answers is named by its winner, so the cases compare the two winners
    obtain ⟨_, rfl⟩ := lookupAllAmong_eq_ok_iff.1 h₁
    obtain ⟨_, rfl⟩ := lookupAllAmong_eq_ok_iff.1 h₂
    refine ⟨_, add_toValue c d, joined, rfl, rfl, ?_, ?_, ?_, ?_, ?_⟩
    · intro some
      rw [query] at some
      cases some
    all_goals rw [same]; intro _
    · exact wonRecords_join_of_lt
    · exact wonRecords_join_of_gt
    · exact wonRecords_join_of_eq
    · intro finder won
      rw [← winner_join] at won
      show (c.join d).wonRecords key c.finders.names = _
      rw [wonRecords, won]
      rfl

end

/-- The title of the second collection's only page comes before the body of the first one's. -/
theorem lookupAll_joined_titles :
    let finders := DefaultFinders.ofNames ["title", "body"]
    let c : Collection := ⟨.base, [.record [("title", .text "index"), ("body", .text "news")] []], finders⟩
    let d : Collection := ⟨.base, [.record [("title", .text "news"), ("body", .text "")] []], finders⟩
    (c.lookupAll (.text "news")).outcome = .ok c ∧ (d.lookupAll (.text "news")).outcome = .ok d ∧
      ∃ joined found, c.add d.toValue = .ok joined ∧
        (joined.lookupAll (.text "news")).outcome = .ok found ∧ found.records = d.records := by
  intro finders c d
  have first : (c.lookupAll (.text "news")).outcome = .ok c := rfl
  have second : (d.lookupAll (.text "news")).outcome = .ok d := rfl
  have same : d.finders = c.finders := rfl
  obtain ⟨joined, found, added, looked, is_joined⟩ := lookupAll_joined same first second
  have title_wins : d.winner (.text "news") finders.names < c.winner (.text "news") finders.names := by
    decide
  exact ⟨first, second, joined, found, added, looked, is_joined.second_wins rfl title_wins⟩

end Collection
end RecordQuery
