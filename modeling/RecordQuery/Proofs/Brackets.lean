import RecordQuery.Proofs.LookupOutcomes
import RecordQuery.Proofs.Printing
/-!
Brackets with a key that lists reject, against the lookups.

Brackets look up the key itself for one record, and the key in a wrapper for all records (`LooksUp`); each
comes to what the lookup does, up to the words of a failure (`LooksUp.agree_iff`). The exception is a key that
neither can be looked up nor printed: the lookup wants to name it in its message and fails with that
(`brackets_lookup_differ`). Brackets fail for an unsupported key exactly if the wrapper does not hold one key
or there are no default finders for a key that needs them (`brackets_lookup`); that some record cannot be
checked is set aside there, and nothing found is an answer.
-/

namespace RecordQuery
namespace Collection

/-- Two results are the same, or failures of one kind. -/
inductive Agree : Checked α → Checked α → Prop
  | answer (a : α) : Agree (.ok a) (.ok a)
  | failure {e e' : Failure} (kind : e.kind = e'.kind) : Agree (.error e) (.error e')

theorem Agree.refl (r : Checked α) : Agree r r := by
  cases r with
  | ok a => exact .answer a
  | error e => exact .failure rfl

theorem outcome_toValue (r : Run Collection) :
    (r >>= fun found => (pure found.toValue : Run Value)).outcome = r.outcome.map toValue := by
  rw [Run.outcome_bind]
  cases r.outcome <;> rfl

section
variable [Answers] {c : Collection} {key : Value}

/-! ## What brackets stand for -/

/-- What brackets around a key that lists reject stand for: looking up the key, or the key in a wrapper,
with what the lookup comes to. -/
inductive LooksUp (c : Collection) (key : Value) : Value → Checked Value → Prop
  | single (unwrapped : wrapped? key = none) : LooksUp c key key (c.lookup key).outcome
  | plural {inner : Value} (wraps : wrapped? key = some [inner]) :
    LooksUp c key inner ((c.lookupAll inner).outcome.map toValue)

def MalformedWrapper (key : Value) : Prop := ∃ keys, wrapped? key = some keys ∧ keys.length ≠ 1

theorem lookUp_cases (c : Collection) (key : Value) :
    MalformedWrapper key ∨ ∃ inner answer, c.LooksUp key inner answer := by
  cases hw : wrapped? key with
  | none => exact .inr ⟨key, _, .single hw⟩
  | some keys =>
    by_cases size : keys.length = 1
    · obtain ⟨inner, rfl⟩ := List.length_eq_one_iff.1 size
      exact .inr ⟨inner, _, .plural hw⟩
    · exact .inl ⟨keys, hw, size⟩

/-! ## What brackets come to -/

variable {native : Failure} {inner : Value} {answer : Checked Value}

theorem getQuery_of_malformed {keys : List Value} (wraps : wrapped? key = some keys)
    (size : keys.length ≠ 1) :
    (c.getQuery key native).outcome = .error (.wrapperSize keys.length native) := by
  simp only [getQuery, wraps]
  cases keys with
  | nil => rfl
  | cons first others =>
    cases others with
    | nil => exact absurd rfl size
    | cons => rfl

theorem getQuery_of_wrapped (wraps : wrapped? key = some [inner]) (can : c.CanLookUp inner) :
    (c.getQuery key native).outcome = (c.lookupAll inner).outcome.map toValue := by
  simp only [getQuery, wraps]
  cases query : inner.isQuery with
  | true => rw [if_pos rfl, lookupAll_of_query query, outcome_toValue]
  | false =>
    rw [if_neg (by simp), ← outcome_toValue]
    exact Run.outcome_bind_of_ok (requireFindersFor_of_canLookUp can query) _

theorem LooksUp.getQuery_eq (h : c.LooksUp key inner answer) (can : c.CanLookUp inner) :
    (c.getQuery key native).outcome = answer := by
  cases h with
  | single unwrapped => exact getQuery_of_canLookUp unwrapped can
  | plural wraps => exact getQuery_of_wrapped wraps can

theorem LooksUp.getQuery_eq_error (h : c.LooksUp key inner answer) (cannot : ¬ c.CanLookUp inner) :
    (c.getQuery key native).outcome = .error (.noFindersForBrackets inner.className native) := by
  obtain ⟨plain, none⟩ := not_canLookUp.1 cannot
  have unconfigured : c.requireFindersFor inner native =
      .error (.noFindersForBrackets inner.className native) := by
    rw [requireFindersFor, none]
    rfl
  cases h with
  | single unwrapped =>
    simp only [getQuery, unwrapped, plain, unconfigured]
    rfl
  | plural wraps =>
    simp only [getQuery, wraps, plain, unconfigured]
    rfl

theorem LooksUp.eq_error (h : c.LooksUp key inner answer) (cannot : ¬ c.CanLookUp inner) :
    answer = .error (refusal inner) := by
  cases h with
  | single => exact lookup_of_not_canLookUp cannot
  | plural => rw [lookupAll_of_not_canLookUp cannot]; rfl

theorem LooksUp.fails (h : c.LooksUp key inner answer) (can : c.CanLookUp inner) {e : Failure}
    (failed : answer = .error e) : c.LookupFails inner e := by
  cases h with
  | single => exact lookup_fails can e failed
  | plural =>
    cases found : (c.lookupAll inner).outcome with
    | ok d =>
      rw [found] at failed
      cases failed
    | error cause =>
      rw [found] at failed
      cases failed
      exact lookupAll_fails can e found

/-- A key that a lookup can say something of: it can be looked up, or the failure to do so can be told from
others. -/
def Answerable (c : Collection) (key : Value) : Prop :=
  c.CanLookUp key ∨ ∀ fault, key.repr = .error fault → fault.kind = .unsupportedKey

/-- Brackets come to what the lookup does that they stand for, exactly if the lookup can say something of the
key. -/
theorem LooksUp.agree_iff (h : c.LooksUp key inner answer) :
    Agree (c.getQuery key native).outcome answer ↔ c.Answerable inner := by
  by_cases can : c.CanLookUp inner
  · rw [h.getQuery_eq can]
    exact ⟨fun _ => .inl can, fun _ => .refl answer⟩
  · rw [h.getQuery_eq_error can, h.eq_error can]
    constructor
    · intro agree
      cases agree with
      | failure kind => exact .inr (kind_refusal_iff.1 kind.symm)
    · intro answerable
      exact .failure (kind_refusal_iff.2 (answerable.resolve_left can)).symm

/-- Brackets fail for an unsupported key where the wrapper or the finders are at fault, and say so. -/
theorem getQuery_unsupported {e : Failure}
    (checkable : ∀ inner answer, c.LooksUp key inner answer → c.Checkable inner)
    (failed : (c.getQuery key native).outcome = .error e) (kind : e.kind = .unsupportedKey) :
    (∃ size, MalformedWrapper key ∧ e = .wrapperSize size native) ∨
      ∃ inner answer, c.LooksUp key inner answer ∧ ¬ c.CanLookUp inner ∧
        e = .noFindersForBrackets inner.className native := by
  rcases c.lookUp_cases key with malformed | ⟨inner, answer, looks⟩
  · obtain ⟨keys, wraps, size⟩ := id malformed
    rw [getQuery_of_malformed wraps size] at failed
    cases failed
    exact .inl ⟨_, malformed, rfl⟩
  · by_cases can : c.CanLookUp inner
    · rw [looks.getQuery_eq can] at failed
      exact absurd kind ((looks.fails can failed).supported (checkable inner answer looks))
    · rw [looks.getQuery_eq_error can] at failed
      cases failed
      exact .inr ⟨inner, answer, looks, can, rfl⟩

theorem LooksUp.unanswerable (h : c.LooksUp key inner answer) (not_answerable : ¬ c.Answerable inner) :
    (c.getQuery key native).outcome = .error (.noFindersForBrackets inner.className native) ∧
      ∃ fault, inner.repr = .error fault ∧ answer = .error fault.failure := by
  have cannot : ¬ c.CanLookUp inner := fun can => not_answerable (.inl can)
  refine ⟨h.getQuery_eq_error cannot, ?_⟩
  rw [h.eq_error cannot, refusal]
  cases printed : inner.repr with
  | ok text =>
    refine absurd (.inr fun fault failed => ?_) not_answerable
    rw [printed] at failed
    cases failed
  | error fault => exact ⟨fault, rfl, rfl⟩

theorem getQuery_unsupported_iff
    (checkable : ∀ inner answer, c.LooksUp key inner answer → c.Checkable inner) :
    (∃ e, (c.getQuery key native).outcome = .error e ∧ e.kind = .unsupportedKey) ↔
      MalformedWrapper key ∨
        c.finders.names = [] ∧ ∃ inner answer, c.LooksUp key inner answer ∧ inner.isQuery = false := by
  constructor
  · rintro ⟨e, failed, kind⟩
    rcases getQuery_unsupported checkable failed kind with
      ⟨_, malformed, _⟩ | ⟨inner, answer, looks, cannot, _⟩
    · exact .inl malformed
    · obtain ⟨plain, none⟩ := not_canLookUp.1 cannot
      exact .inr ⟨none, inner, answer, looks, plain⟩
  · rintro (⟨keys, wraps, size⟩ | ⟨none, inner, answer, looks, plain⟩)
    · exact ⟨_, getQuery_of_malformed wraps size, rfl⟩
    · exact ⟨_, looks.getQuery_eq_error (not_canLookUp.2 ⟨plain, none⟩), rfl⟩

/-! ## Brackets against lookups -/

/-- What brackets come to with a key that lists reject, given how they reject it. -/
structure BracketAccess (c : Collection) (key : Value) (native : Failure) : Prop where
  single : wrapped? key = none → (Agree (c.getItem key).outcome (c.lookup key).outcome ↔ c.Answerable key)
  plural : ∀ inner, wrapped? key = some [inner] →
    (Agree (c.getItem key).outcome ((c.lookupAll inner).outcome.map toValue) ↔ c.Answerable inner)
  /-- Where they do not agree, brackets still fail for an unsupported key, and the lookup as printing does. -/
  unanswerable : ∀ inner answer, c.LooksUp key inner answer → ¬ c.Answerable inner →
    (c.getItem key).outcome = .error (.noFindersForBrackets inner.className native) ∧
      ∃ fault, inner.repr = .error fault ∧ answer = .error fault.failure
  malformed : ∀ keys, wrapped? key = some keys → keys.length ≠ 1 →
    (c.getItem key).outcome = .error (.wrapperSize keys.length native)
  /-- If records can be checked, the key is unsupported exactly if it is a malformed wrapper, or it is no
  query and there are no default finders. -/
  unsupported_iff : (∀ inner answer, c.LooksUp key inner answer → c.Checkable inner) →
    ((∃ e, (c.getItem key).outcome = .error e ∧ e.kind = .unsupportedKey) ↔
      MalformedWrapper key ∨
        c.finders.names = [] ∧ ∃ inner answer, c.LooksUp key inner answer ∧ inner.isQuery = false)
  unsupported_cause : (∀ inner answer, c.LooksUp key inner answer → c.Checkable inner) →
    ∀ e, (c.getItem key).outcome = .error e → e.kind = .unsupportedKey → e.cause? = some native
  /-- That nothing matches is an answer: nothing, or the empty collection. -/
  nothing_single : wrapped? key = none → c.CanLookUp key → c.MatchedByNone key →
    (c.getItem key).outcome = .ok .none
  nothing_plural : ∀ inner, wrapped? key = some [inner] → c.CanLookUp inner → c.MatchedByNone inner →
    (c.getItem key).outcome = .ok (c.withRecords []).toValue

/-- Brackets with a key that lists reject are lookups, as far as a lookup can say something of the key. -/
theorem brackets_lookup (rejected : Sequence.get c.records key = .error native)
    (type : native.kind.isType) : c.BracketAccess key native := by
  have queried := getItem_of_rejected rejected type
  -- a key that lists reject is looked up, so each part is one about the query
  constructor
  all_goals rw [queried]
  · exact fun unwrapped => LooksUp.agree_iff (.single unwrapped)
  · exact fun inner wraps => LooksUp.agree_iff (.plural wraps)
  · exact fun inner answer looks => looks.unanswerable
  · exact fun keys => getQuery_of_malformed
  · exact getQuery_unsupported_iff
  · intro checkable e failed kind
    rcases getQuery_unsupported checkable failed kind with ⟨_, _, rfl⟩ | ⟨_, _, _, _, rfl⟩
    · rfl
    · rfl
  · intro unwrapped can nothing
    rw [getQuery_of_canLookUp unwrapped can, lookup_of_matchedByNone nothing can]
  · intro inner wraps can nothing
    rw [getQuery_of_wrapped wraps can, lookupAll_of_matchedByNone nothing can]
    rfl

end

/-- A text that no record has: nothing, the empty collection for a wrapper, and without default finders an
error that arose from the one of the list. -/
theorem brackets_find_nothing :
    let pages : Collection := ⟨.base, [.record [("a", .text "x")] []], ⟨["a"], by decide⟩⟩
    let unconfigured : Collection := ⟨.base, pages.records, .none⟩
    (pages.getItem (.text "y")).outcome = .ok .none ∧
      (pages.getItem (.list [.text "y"])).outcome = .ok (pages.withRecords []).toValue ∧
      ∃ e, (unconfigured.getItem (.text "y")).outcome = .error e ∧ e.kind = .unsupportedKey ∧
        e.cause? = some (.notAnIndex "str") := by
  intro pages unconfigured
  have can : pages.CanLookUp (.text "y") := .inr rfl
  have nothing : pages.MatchedByNone (.text "y") := by
    intro criteria listed
    cases List.mem_singleton.1 listed
    refine ⟨.search [("a", .literal (.text "y"))], rfl, fun r hr => ?_⟩
    cases List.mem_singleton.1 hr
    rfl
  have plain : pages.BracketAccess (.text "y") (.notAnIndex "str") := brackets_lookup rfl rfl
  have wrapped : pages.BracketAccess (.list [.text "y"]) (.notAnIndex "list") := brackets_lookup rfl rfl
  have without : unconfigured.BracketAccess (.text "y") (.notAnIndex "str") := brackets_lookup rfl rfl
  have checkable : ∀ inner answer, unconfigured.LooksUp (.text "y") inner answer →
      unconfigured.Checkable inner := by
    intro inner answer looks
    cases looks with
    | single => exact fun _ listed => nomatch listed
    | plural wraps => cases wraps
  obtain ⟨e, failed, kind⟩ :=
    (without.unsupported_iff checkable).2 (.inr ⟨rfl, _, _, .single rfl, rfl⟩)
  exact ⟨plain.nothing_single rfl can nothing, wrapped.nothing_plural _ rfl can nothing,
    e, failed, kind, without.unsupported_cause checkable e failed kind⟩

/-- A collection that holds a list nested too deeply cannot be printed. -/
def deepKey : Value := .collection .base [.nested callLimit] .none

theorem repr_deepKey : deepKey.repr = .error .tooDeep := by
  have deep : deepKey.unprintable? callLimit = some .tooDeep := by
    show withinCalls 3 callLimit (unprintableAmong? [.nested callLimit]) = _
    have room : callLimit - 3 ≤ callLimit := Nat.sub_le _ _
    rw [withinCalls, if_neg (by decide), unprintableAmong?, Value.unprintable_nested room]
    rfl
  rw [Value.repr, Value.unlessUnprintable, deep]

/-- Brackets with such a key fail for an unsupported key where there are no default finders, and the lookup
fails in another way. -/
theorem brackets_lookup_differ :
    ¬ ∀ (c : Collection) (key : Value) (native : Failure), Sequence.get c.records key = .error native →
      native.kind.isType → wrapped? key = none →
        Agree (c.getItem key).outcome (c.lookup key).outcome := by
  intro h
  let empty : Collection := ⟨.base, [], .none⟩
  have agree := h empty deepKey (.notAnIndex "QueryableList") rfl rfl rfl
  rw [getItem_of_rejected rfl rfl] at agree
  rcases (LooksUp.single rfl).agree_iff.1 agree with can | kind
  · rcases can with query | configured
    · cases query
    · cases configured
  · cases kind _ repr_deepKey

end Collection
end RecordQuery
