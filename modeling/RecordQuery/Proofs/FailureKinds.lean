import RecordQuery.Collection.Dispatch
import RecordQuery.Proofs.LookupAgreement
import RecordQuery.Proofs.Searching
/-!
What operations can fail with.

`FailsOnly P` says that whatever a run fails with satisfies `P`. It goes through the parts of a run: one
lemma for each way to put runs together, then one for each operation. The last of them says where a failure
to look up a text or a pattern comes from (`failsOnly_lookup`): from checking a record, or from there being no
default finders.
-/

namespace RecordQuery

/-- Two results in a row fail as the first one does, or as the second one does after it. -/
theorem Checked.bind_eq_error {r : Checked α} {f : α → Checked β} {e : Failure} :
    r >>= f = .error e ↔ r = .error e ∨ ∃ a, r = .ok a ∧ f a = .error e := by
  cases r with
  | ok a => simp [bind, Except.bind]
  | error cause => simp [bind, Except.bind]

theorem Checked.bind_eq_ok {r : Checked α} {f : α → Checked β} {b : β} :
    r >>= f = .ok b ↔ ∃ a, r = .ok a ∧ f a = .ok b := by
  cases r with
  | ok a => simp [bind, Except.bind]
  | error cause => simp [bind, Except.bind]

/-- Whatever the run fails with satisfies `P`. -/
def Run.FailsOnly (P : Failure → Prop) (r : Run α) : Prop := ∀ e, r.outcome = .error e → P e

namespace Run.FailsOnly

variable {P : Failure → Prop}

theorem pure (a : α) : FailsOnly P (Pure.pure a : Run α) := nofun

theorem fail {e : Failure} (h : P e) : FailsOnly P (Run.fail e : Run α) := by
  intro e' he
  cases he
  exact h

theorem ofChecked {r : Checked α} (h : ∀ e, r = .error e → P e) : FailsOnly P (Run.ofChecked r) := h

theorem bind {r : Run α} {f : α → Run β} (hr : FailsOnly P r)
    (hf : ∀ a, r.outcome = .ok a → FailsOnly P (f a)) : FailsOnly P (r >>= f) := by
  intro e he
  rcases Run.outcome_bind_eq_error.1 he with he | ⟨a, ha, he⟩
  · exact hr e he
  · exact hf a ha e he

theorem handle {r : Run α} {f : Failure → Run α} (hf : ∀ e, r.outcome = .error e → FailsOnly P (f e)) :
    FailsOnly P (r.handle f) := by
  intro e he
  obtain ⟨cause, hc, he⟩ := Run.outcome_handle_eq_error.1 he
  exact hf cause hc e he

end Run.FailsOnly

namespace Scan

variable {P : Failure → Prop} {test : α → Run Bool} {xs : List α}

theorem failsOnly_first (h : ∀ x ∈ xs, (test x).FailsOnly P) : (first test xs).FailsOnly P := by
  intro e he
  obtain ⟨x, hx, he⟩ := exists_of_outcome_first_eq_error he
  exact h x hx e he

theorem failsOnly_guarded {r : Run α} (hr : r.FailsOnly P) (hP : ∀ e, P e → P (failure e)) :
    (guarded r).FailsOnly P := by
  intro e he
  obtain ⟨cause, hc, rfl⟩ := outcome_guarded_eq_error.1 he
  exact hP cause (hr cause hc)

end Scan

theorem Search.failsOnly_tests [Answers] {P : Failure → Prop} {s : Search} {record : Value}
    (h : ∀ entry ∈ s, (checkEntry record entry).FailsOnly P) : (s.tests record).FailsOnly P := by
  intro e he
  obtain ⟨entry, hentry, he⟩ := exists_of_tests_eq_error he
  exact h entry hentry e he

theorem Value.failsOnly_read [Answers] (record : Value) (name : String) :
    (record.read name).FailsOnly fun e => e.kind.isAttribute = false := by
  have handled (v : Value) : ((v.attr name).handle fun e =>
      if e.kind.isAttribute then pure .missing else .fail e).FailsOnly
        fun e => e.kind.isAttribute = false := by
    refine Run.FailsOnly.handle fun e _ => ?_
    split
    · exact Run.FailsOnly.pure _
    · rename_i other
      exact Run.FailsOnly.fail (by simpa using other)
  unfold Value.read
  split
  · exact Run.FailsOnly.pure _
  · exact Run.FailsOnly.pure _
  · exact handled _

/-! ## Ordinary failures -/

def Failure.Ordinary (e : Failure) : Prop := e.kind.isOrdinary = true

theorem ordinary_failure (e : Failure) (h : e.Ordinary) : (Scan.failure e).Ordinary := by
  unfold Failure.Ordinary
  rw [Scan.kind_failure]
  split
  · rfl
  · exact h

def Failure.OfName (e : Failure) : Prop := ∃ cls name, e = .unrecognizedName cls name

/-! ## Failures of comparisons -/

/-- A failure in which an object raised an error of its own, or printing did. -/
def Failure.OfMethod (e : Failure) : Prop := ∃ fault : Raised, e = fault.failure

theorem ofMethod_of_eq_error {r : Except Raised α} {e : Failure} (h : Checked.ofMethod r = .error e) :
    e.OfMethod := by
  cases r with
  | ok a => cases h
  | error fault =>
    cases h
    exact ⟨fault, rfl⟩

theorem ofMethod_of_truth {v : Value} {e : Failure} (h : v.truth = .error e) : e.OfMethod := by
  cases v with
  | odd _ oddity => exact ofMethod_of_eq_error h
  | _ => cases h

theorem ofMethod_of_answer? {o : Oddity Value} {v : Value} {e : Failure}
    (h : o.answer? v = some (.error e)) : e.OfMethod := by
  obtain ⟨r, _, failed⟩ := Option.map_eq_some_iff.1 h
  exact ofMethod_of_eq_error failed

theorem ofMethod_of_oddAnswer? {a b : Value} {e : Failure} (h : a.oddAnswer? b = some (.error e)) :
    e.OfMethod := by
  unfold Value.oddAnswer? at h
  split at h
  · rcases Option.or_eq_some_iff.1 h with h | ⟨_, h⟩
    · exact ofMethod_of_answer? h
    · exact ofMethod_of_answer? h
  · exact ofMethod_of_answer? h
  · exact ofMethod_of_answer? h
  · cases h

theorem ofMethod_of_equalShallow {a b : Value} {e : Failure} (h : a.equalShallow b = .error e) :
    e.OfMethod := by
  unfold Value.equalShallow at h
  split at h
  · cases h
  · split at h
    · rename_i answer odd
      rw [h] at odd
      exact ofMethod_of_oddAnswer? odd
    · cases h

theorem ofMethod_of_foundIn {p : Pattern} {v : Value} {e : Failure}
    (h : Matcher.foundIn p v = .error e) : e.OfMethod := by
  cases v with
  | none => cases h
  | _ =>
    rcases Checked.bind_eq_error.1 h with untold | ⟨_, _, searched⟩
    · exact ofMethod_of_eq_error untold
    · cases searched

/-! ## Looking up texts and patterns -/

/-- A key that is a text or a pattern. -/
inductive PlainKey : Value → Matcher → Prop
  | text (t : String) : PlainKey (.text t) (.literal (.text t))
  | pattern (p : Pattern) : PlainKey (.pattern p) (.pattern p)

namespace PlainKey

variable {key : Value} {m : Matcher}

theorem ofExpected_eq (h : PlainKey key m) : Matcher.ofExpected key = .ok m := by
  cases h <;> rfl

theorem isQuery_eq (h : PlainKey key m) : key.isQuery = false := by
  cases h <;> rfl

theorem equals_eq (h : PlainKey key m) (v : Value) : m.expected.equals v = key.equalShallow v := by
  cases h <;> cases v <;> rfl

/-- Whether a value is accepted fails only in that an object raises an error, or cannot be printed. -/
theorem failsOnly_accepts [Answers] (h : PlainKey key m) (v : Value) :
    (m.accepts v).FailsOnly Failure.OfMethod := by
  refine Run.FailsOnly.bind (Run.FailsOnly.ofChecked ?_) ?_
  · intro e he
    rw [Value.isEqual, h.equals_eq] at he
    rcases Checked.bind_eq_error.1 he with refused | ⟨answer, _, undecided⟩
    · exact ofMethod_of_equalShallow refused
    · exact ofMethod_of_truth undecided
  · intro equal _
    cases equal with
    | true => exact Run.FailsOnly.pure true
    | false =>
      -- a text is not put to any further check, and a pattern is searched for
      cases h with
      | text t => exact Run.FailsOnly.pure false
      | pattern p => exact Run.FailsOnly.ofChecked fun e he => ofMethod_of_foundIn he

theorem repr_eq (h : PlainKey key m) : key.repr = .ok key.printed := by
  cases h <;> rfl

end PlainKey

namespace Collection

theorem predicate_finderEntry {key : Value} {m : Matcher} (h : Matcher.ofExpected key = .ok m)
    (finder : String) :
    (Criteria.predicate (finderEntry finder key) []).outcome = .ok (.search [(finder, m)]) := by
  have classified : Search.classify [(.text finder, key)] = .ok [(.text finder, m)] := by
    rw [Search.classify, h]
    rfl
  show (Criteria.ofEntries [(.text finder, key)]).outcome = _
  rw [Criteria.ofEntries, Search.ofEntries, classified]
  rfl

section
variable [Answers] {c : Collection} {key : Value} {m : Matcher} {P : Failure → Prop}

/-- What has to satisfy `P` for every failure to look up a plain key to do so. -/
structure LookupFailures (c : Collection) (key : Value) (m : Matcher) (P : Failure → Prop) : Prop where
  checks : ∀ r ∈ c.records, ∀ finder ∈ c.finders.names, (Search.checkEntry r (finder, m)).FailsOnly P
  scans : ∀ e, P e → P (Scan.failure e)
  unconfigured : c.finders.names.isEmpty → P (.noFinders key.printed)

theorem failsOnly_findBy (h : c.LookupFailures key m P) (plain : PlainKey key m) {finder : String}
    (hf : finder ∈ c.finders.names) :
    (c.findBy (finderEntry finder key) []).FailsOnly P := by
  have hp := predicate_finderEntry plain.ofExpected_eq finder
  have checked (r : Value) (hr : r ∈ c.records) :
      ((Predicate.search [(finder, m)]).holds r).FailsOnly P := by
    refine Search.failsOnly_tests (s := [(finder, m)]) fun entry he => ?_
    rw [List.mem_singleton.1 he]
    exact h.checks r hr finder hf
  refine Run.FailsOnly.bind ?_ ?_
  · intro e he
    rw [hp] at he
    cases he
  · intro p hp'
    rw [hp] at hp'
    cases hp'
    refine Run.FailsOnly.bind ?_ fun _ _ => Run.FailsOnly.pure _
    exact Scan.failsOnly_guarded (Scan.failsOnly_first checked) h.scans

theorem failsOnly_lookupAmong (h : c.LookupFailures key m P) (plain : PlainKey key m)
    {names : List String} (among : ∀ finder ∈ names, finder ∈ c.finders.names) :
    (c.lookupAmong key names).FailsOnly P := by
  induction names with
  | nil => exact Run.FailsOnly.pure _
  | cons finder rest ih =>
    obtain ⟨hf, others⟩ := List.forall_mem_cons.1 among
    apply (failsOnly_findBy h plain hf).bind
    intro record _
    cases record with
    | none => exact ih others
    | _ => exact nofun

/-- Looking up a text or a pattern fails as checking a record does, or because there are no default
finders. -/
theorem failsOnly_lookup (h : c.LookupFailures key m P) (plain : PlainKey key m) :
    (c.lookup key).FailsOnly P := by
  rw [lookup, plain.isQuery_eq]
  refine Run.FailsOnly.bind ?_ fun names hn => ?_
  · intro e he
    rw [Run.outcome_ofChecked, requireFinders_eq, refusal, plain.repr_eq] at he
    split at he
    · rename_i none
      cases he
      exact h.unconfigured none
    · cases he
  · -- the finders that are gone through are those of the collection
    rw [names_of_requireFinders hn]
    exact failsOnly_lookupAmong h plain fun _ => id

/-- Checking a record fails only in an ordinary way: reading the attributes that the default finders name does,
and so does comparing what is read with a text or a pattern, and searching its text. -/
structure ChecksOrdinarily (c : Collection) : Prop where
  reads : ∀ r ∈ c.records, ∀ finder ∈ c.finders.names, (r.read finder).FailsOnly Failure.Ordinary
  comparisons : ∀ r ∈ c.records, ∀ finder ∈ c.finders.names, ∀ v, (r.read finder).outcome = .ok v →
    ∀ key m, PlainKey key m → (m.accepts v.orNone).FailsOnly Failure.Ordinary

theorem ChecksOrdinarily.lookupFailures (h : c.ChecksOrdinarily) (plain : PlainKey key m) :
    c.LookupFailures key m Failure.Ordinary where
  checks r hr finder hf :=
    (h.reads r hr finder hf).bind fun v read => h.comparisons r hr finder hf v read key m plain
  scans := ordinary_failure
  unconfigured := fun _ => rfl

end
end Collection
end RecordQuery
