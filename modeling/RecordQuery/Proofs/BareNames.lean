import RecordQuery.Proofs.EscapedPatterns
import RecordQuery.Proofs.FailureKinds
import RecordQuery.Proofs.NameForms
/-!
What a bare name comes to, by what looking up its key comes to.

The key of a bare name is its token or the pattern that finds the token in any case (`bareKey_eq`). A record
that is found is the answer, or "yes"; for nothing found there is an answer of its own (`nothingFor`), and so
there is for a lookup that fails for an unsupported key. Any other failure goes through.
-/

namespace RecordQuery

theorem DynamicName.parse_of_finder?_eq_none {name : String} (h : finder? name = none) :
    parse name = bare name := by
  rw [parse, h]
  rfl

@[simp] theorem DynamicName.name_bare (name : String) : (bare name).name = name := by
  unfold bare
  split <;> rfl

namespace Collection

/-! ## The key of a bare name -/

theorem bareKey_eq (n : DynamicName) :
    bareKey n = if n.exact then .text n.token else .pattern (Pattern.inAnyCase n.token) := by
  rw [bareKey, Pattern.compile?_escape]

theorem plainKey_bareKey (n : DynamicName) : ∃ m, PlainKey (bareKey n) m := by
  rw [bareKey_eq]
  split
  · exact ⟨_, .text n.token⟩
  · exact ⟨_, .pattern _⟩

/-! ## What is found for a token -/

section
variable [Answers] {c : Collection} {n : DynamicName} {record : Value} {e : Failure}

theorem tokenRecord_of_token (h : n.token ≠ "") :
    c.tokenRecord n = (c.lookup (bareKey n)).handle fun e =>
      if e.kind = .unsupportedKey then do
        Run.tell (.noFinders n.name)
        return .none
      else .fail e := by
  rw [tokenRecord, if_neg (by simpa using h)]

theorem tokenRecord_of_ok (token : n.token ≠ "") (h : (c.lookup (bareKey n)).outcome = .ok record) :
    (c.tokenRecord n).outcome = .ok record := by
  rw [tokenRecord_of_token token]
  exact Run.outcome_handle_eq_ok.2 (.inl h)

theorem tokenRecord_of_unsupported (token : n.token ≠ "")
    (h : (c.lookup (bareKey n)).outcome = .error e) (unsupported : e.kind = .unsupportedKey) :
    (c.tokenRecord n).outcome = .ok .none := by
  rw [tokenRecord_of_token token]
  refine Run.outcome_handle_eq_ok.2 (.inr ⟨e, h, ?_⟩)
  rw [if_pos unsupported]
  rfl

theorem tokenRecord_of_error (token : n.token ≠ "") (h : (c.lookup (bareKey n)).outcome = .error e)
    (other : e.kind ≠ .unsupportedKey) : (c.tokenRecord n).outcome = .error e := by
  rw [tokenRecord_of_token token]
  refine Run.outcome_handle_eq_error.2 ⟨e, h, ?_⟩
  rw [if_neg other]
  rfl

/-! ## What a bare name answers -/

def nothingFor (c : Collection) (n : DynamicName) : Checked Value :=
  if n.answersWhether then .ok (.bool false) else .error (.unrecognizedName c.className n.name)

theorem resolve_of_record (h : (c.tokenRecord n).outcome = .ok record) (some : record ≠ .none) :
    (c.resolve n).outcome = .ok (if n.answersWhether then .bool true else record) := by
  rw [resolve, Run.outcome_bind_of_ok h]
  cases record with
  | none => exact absurd rfl some
  | _ => split <;> rfl

theorem resolve_of_nothing (h : (c.tokenRecord n).outcome = .ok .none) :
    (c.resolve n).outcome = c.nothingFor n := by
  rw [resolve, Run.outcome_bind_of_ok h, nothingFor]
  split <;> rfl

theorem resolve_of_error (h : (c.tokenRecord n).outcome = .error e) :
    (c.resolve n).outcome = .error e := Run.outcome_bind_of_error h _

/-- A lookup that counts as one that finds nothing: it finds nothing, or it fails for an unsupported key. -/
def CountsAsNothing (found : Checked Value) : Prop :=
  found = .ok .none ∨ ∃ e, found = .error e ∧ e.kind = .unsupportedKey

/-- What a bare name comes to, given what looking up its key comes to. -/
inductive Resolved (c : Collection) (n : DynamicName) : Checked Value → Checked Value → Prop
  | record {r : Value} (some : r ≠ .none) :
    Resolved c n (.ok r) (.ok (if n.answersWhether then .bool true else r))
  | nothing {found : Checked Value} (counts : CountsAsNothing found) : Resolved c n found (c.nothingFor n)
  | failure {e : Failure} (other : e.kind ≠ .unsupportedKey) : Resolved c n (.error e) (.error e)

theorem resolved_resolve (token : n.token ≠ "") :
    c.Resolved n (c.lookup (bareKey n)).outcome (c.resolve n).outcome := by
  cases h : (c.lookup (bareKey n)).outcome with
  | ok r =>
    have found := tokenRecord_of_ok token h
    by_cases none : r = .none
    · subst none
      rw [resolve_of_nothing found]
      exact .nothing (.inl rfl)
    · rw [resolve_of_record found none]
      exact .record none
  | error e =>
    by_cases unsupported : e.kind = .unsupportedKey
    · rw [resolve_of_nothing (tokenRecord_of_unsupported token h unsupported)]
      exact .nothing (.inr ⟨e, rfl, unsupported⟩)
    · rw [resolve_of_error (tokenRecord_of_error token h unsupported)]
      exact .failure unsupported

end

/-! ## From the answer back to the lookup -/

theorem not_countsAsNothing_ok {r : Value} (some : r ≠ .none) : ¬ CountsAsNothing (.ok r) := by
  intro h
  rcases h with none | ⟨e, failed, _⟩
  · cases none
    exact some rfl
  · cases failed

theorem not_countsAsNothing_error {e : Failure} (other : e.kind ≠ .unsupportedKey) :
    ¬ CountsAsNothing (.error e) := by
  intro h
  rcases h with none | ⟨e, failed, unsupported⟩
  · cases none
  · cases failed
    exact other unsupported

namespace Resolved

variable {c : Collection} {n : DynamicName} {found answer : Checked Value} {e : Failure}

theorem eq_nothingFor (h : c.Resolved n found answer) (counts : CountsAsNothing found) :
    answer = c.nothingFor n := by
  cases h with
  | nothing => rfl
  | record some => exact absurd counts (not_countsAsNothing_ok some)
  | failure other => exact absurd counts (not_countsAsNothing_error other)

theorem eq_error (h : c.Resolved n found answer) (failed : found = .error e)
    (other : e.kind ≠ .unsupportedKey) : answer = .error e := by
  cases h with
  | record => cases failed
  | failure => exact failed
  | nothing counts =>
    rw [failed] at counts
    exact absurd counts (not_countsAsNothing_error other)

theorem ne_none (h : c.Resolved n found answer) : answer ≠ .ok .none := by
  intro same
  cases h with
  | record some =>
    split at same
    · cases same
    · cases same
      exact some rfl
  | nothing =>
    unfold nothingFor at same
    split at same <;> cases same
  | failure => cases same

theorem counts_of_unrecognized (h : c.Resolved n found answer)
    (unnamed : ∀ e, found = .error e → ¬ e.OfName)
    (unrecognized : answer = .error (.unrecognizedName c.className n.name)) : CountsAsNothing found := by
  cases h with
  | nothing counts => exact counts
  | record => cases unrecognized
  | failure =>
    cases unrecognized
    exact absurd ⟨_, _, rfl⟩ (unnamed _ rfl)

theorem no_iff (h : c.Resolved n found answer) (asks : n.answersWhether) :
    answer = .ok (.bool false) ↔ CountsAsNothing found := by
  constructor
  · intro no
    cases h with
    | nothing counts => exact counts
    | failure => cases no
    | record =>
      rw [if_pos asks] at no
      cases no
  · intro counts
    rw [h.eq_nothingFor counts, nothingFor, if_pos asks]

end Resolved

section
variable [Answers] {c : Collection}

/-! ## Queries for bare names -/

theorem query_of_finder?_eq_none {name : String} (h : DynamicName.finder? name = none) :
    c.query name [] = c.resolve (DynamicName.parse name) := by
  have bare : (DynamicName.parse name).isFinder = false := by
    rw [DynamicName.parse_of_finder?_eq_none h, DynamicName.isFinder, DynamicName.attributes_bare]
    rfl
  rw [query]
  simp only [bare]
  rfl

def keyLookup (c : Collection) (name : String) : Checked Value :=
  (c.lookup (bareKey (DynamicName.parse name))).outcome

theorem resolved_query {name : String} (bare : DynamicName.finder? name = none)
    (token : (DynamicName.parse name).token ≠ "") :
    c.Resolved (DynamicName.parse name) (c.keyLookup name) (c.query name []).outcome := by
  rw [query_of_finder?_eq_none bare]
  exact resolved_resolve token

/-- Looking up a text or a pattern never fails as a name that is not known does: a record without the attribute
has nothing in its place. -/
theorem lookup_unnamed {key : Value} {m : Matcher} (plain : PlainKey key m) :
    (c.lookup key).FailsOnly fun e => ¬ e.OfName := by
  refine failsOnly_lookup ⟨?checks, ?scans, ?unconfigured⟩ plain
  case checks =>
    intro r _ finder _
    refine Run.FailsOnly.bind ?_ ?_
    · rintro e read ⟨cls, name, rfl⟩
      cases r.failsOnly_read finder _ read
    · rintro v _ e unchecked ⟨cls, name, rfl⟩
      obtain ⟨fault, same⟩ := plain.failsOnly_accepts v.orNone _ unchecked
      cases same
  case scans =>
    rintro e unnamed ⟨cls, name, same⟩
    unfold Scan.failure at same
    split at same
    · cases same
    · exact unnamed ⟨cls, name, same⟩
  case unconfigured =>
    rintro _ ⟨cls, name, same⟩
    cases same

theorem lookup_bareKey_unnamed (n : DynamicName) :
    (c.lookup (bareKey n)).FailsOnly fun e => ¬ e.OfName := by
  obtain ⟨m, plain⟩ := plainKey_bareKey n
  exact lookup_unnamed plain

end
end Collection
end RecordQuery
