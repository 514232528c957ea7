import RecordQuery.Proofs.Chaining
import RecordQuery.Proofs.NameCoherence
/-!
What looking up all records for a key comes to, in full.

A finder is tried by checking every record for the key (`Checks`). The winner is the first finder by which
some record matches. The lookup answers exactly if every finder up to the winner can be tried, and then it
answers the records that match by the winner, all of them and no others (`lookupAllAmong_eq_ok_iff`). What the
finders behind the winner would find, or fail with, does not matter.
-/

namespace RecordQuery
namespace Collection

section
variable [Answers] {c : Collection} {key : Value} {finder : String} {names : List String}

/-! ## One finder -/

def matchedBy (c : Collection) (key : Value) (finder : String) : List Value :=
  c.records.filter fun r => Search.meets r (finder, key)

/-- A finder can be tried: the key can be classified, and no record fails to be checked for it. -/
def Checks (c : Collection) (key : Value) (finder : String) : Prop :=
  ∃ m, Matcher.ofExpected key = .ok m ∧
    ∀ r ∈ c.records, Scan.Answered (Search.checkEntry r) (finder, m)

theorem answered_holds_single {name : String} {m : Matcher} {r : Value} :
    Scan.Answered (Predicate.search [(name, m)]).holds r ↔
      Scan.Answered (Search.checkEntry r) (name, m) := by
  unfold Scan.Answered
  rw [outcome_holds_single]

theorem passes_holds_single {m : Matcher} (h : Matcher.ofExpected key = .ok m) (r : Value) :
    Scan.passes (Predicate.search [(finder, m)]).holds r = Search.meets r (finder, key) := by
  rw [Search.meets, h]
  dsimp only
  rw [Scan.passes, outcome_holds_single]
  rfl

theorem findAll_finderEntry_eq_ok {found : Collection} :
    (c.findAll (finderEntry finder key) []).outcome = .ok found ↔
      c.Checks key finder ∧ found = c.withRecords (c.matchedBy key finder) := by
  cases classified : Matcher.ofExpected key with
  | error e =>
    have listed : (.text finder, key) ∈ [(Value.text finder, key)] := List.mem_singleton_self _
    obtain ⟨e', failed, _⟩ := Search.ofEntries_eq_error_of_mem listed classified
    have given : IsMapping [(.text finder, key)] (finderEntry finder key) :=
      ⟨.inl rfl, List.pairwise_singleton _ _⟩
    rw [findAll_mapping_eq_error given failed]
    simp [Checks, classified]
  | ok m =>
    have records : c.records.filter (Scan.passes (Predicate.search [(finder, m)]).holds) =
        c.matchedBy key finder :=
      List.filter_congr fun r _ => passes_holds_single classified r
    rw [findAll_of_predicate (predicate_finderEntry classified finder), allWhere_eq_ok, records]
    simp [Checks, classified, answered_holds_single]

/-! ## The winner among several finders -/

/-- The position of the first finder by which some record matches a key. If there is none, it is the number of
finders, a position behind all of them. -/
def winner (c : Collection) (key : Value) (names : List String) : Nat :=
  names.findIdx fun finder => c.records.any fun r => Search.meets r (finder, key)

/-- The records that match a key by the winner; none if there is no winner. -/
def wonRecords (c : Collection) (key : Value) (names : List String) : List Value :=
  (names[c.winner key names]?).elim [] (c.matchedBy key)

theorem matchedBy_eq_nil :
    c.matchedBy key finder = [] ↔ (c.records.any fun r => Search.meets r (finder, key)) = false := by
  simp [matchedBy]

theorem winner_cons_of_match (h : c.matchedBy key finder ≠ []) : c.winner key (finder :: names) = 0 := by
  rw [Ne, matchedBy_eq_nil, Bool.not_eq_false] at h
  rw [winner, List.findIdx_cons, h]
  rfl

theorem winner_cons_of_no_match (h : c.matchedBy key finder = []) :
    c.winner key (finder :: names) = c.winner key names + 1 := by
  rw [winner, List.findIdx_cons, matchedBy_eq_nil.1 h]
  rfl

theorem matchedBy_of_lt_winner {i : Nat} (h : i < c.winner key names) (at_position : names[i]? = some finder) :
    c.matchedBy key finder = [] := by
  obtain ⟨_, rfl⟩ := List.getElem?_eq_some_iff.1 at_position
  exact matchedBy_eq_nil.2 (List.not_of_lt_findIdx h)

/-- The lookup answers exactly if the finders up to the winner can be tried, and then with the records of the
winner. -/
theorem lookupAllAmong_eq_ok_iff {found : Collection} :
    (c.lookupAllAmong key names).outcome = .ok found ↔
      (∀ f ∈ names.take (c.winner key names + 1), c.Checks key f) ∧
        found = c.withRecords (c.wonRecords key names) := by
  induction names with
  | nil =>
    rw [lookupAllAmong_nil]
    simp [wonRecords, eq_comm]
  | cons finder rest ih =>
    cases tried : (c.findAll (finderEntry finder key) []).outcome with
    | error e =>
      -- the first finder is tried wherever the winner is
      have unchecked : ¬ c.Checks key finder := by
        intro checks
        rw [findAll_finderEntry_eq_ok.2 ⟨checks, rfl⟩] at tried
        cases tried
      rw [lookupAllAmong_cons_of_error tried]
      simp [unchecked]
    | ok matched =>
      obtain ⟨checks, rfl⟩ := findAll_finderEntry_eq_ok.1 tried
      by_cases none : c.matchedBy key finder = []
      · rw [none] at tried
        rw [lookupAllAmong_cons_of_none tried, ih, wonRecords, wonRecords, winner_cons_of_no_match none]
        simp [checks]
      · rw [lookupAllAmong_cons_of_some tried none, wonRecords, winner_cons_of_match none]
        simp [checks, eq_comm]

end
end Collection
end RecordQuery
