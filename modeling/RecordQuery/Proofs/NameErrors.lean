import RecordQuery.Proofs.Reflection
/-!
Failures of records while a bare name is looked up, against the name not being known.

Asking for a bare name lets the failures of the lookup through, so that "no such name" means that nothing
was found (`KeepsErrors`). There is one exception: the handler that is there for a collection without
default finders goes by the kind of the failure, and a record that fails with that kind is taken for one.
The exception is exact, and it is the check of a record that fails so: an attribute that cannot be read, or a
value that cannot be compared or shown (`errors_of_bare_name`).
-/

namespace RecordQuery

theorem DynamicName.exact_bare (name : String) :
    (bare name).exact = decide ((bare name).mark = some .bang) := by
  unfold bare
  split <;> rfl

namespace Collection

/-! ## Asking for a bare name -/

theorem nothingFor_ne_error {c : Collection} {n : DynamicName} {e : Failure}
    (unsupported : e.kind = .unsupportedKey) : c.nothingFor n ≠ .error e := by
  intro same
  unfold nothingFor at same
  split at same
  · cases same
  · cases same
    cases unsupported

section
variable [Answers] {c : Collection} {name : String}

/-- The ways to ask what a bare name stands for: a query, and reading an attribute that is no member and
may be resolved. -/
inductive AskedAs (c : Collection) (name : String) : Run Value → Prop
  | queried : AskedAs c name (c.query name [])
  | accessed (unknown : c.member? name = none) (isPublic : isPrivate name = false) :
    AskedAs c name (c.attr name)

/-- Asking for a name does not take the failure of a record for a name that is not known: the failures of
the lookup go through, and "no such name" and "no" are answered only where it found nothing. -/
structure KeepsErrors (c : Collection) (name : String) : Prop where
  raised : ∀ asked, c.AskedAs name asked → ∀ e, c.keyLookup name = .error e → asked.outcome = .error e
  unrecognized : ∀ asked, c.AskedAs name asked →
    asked.outcome = .error (.unrecognizedName c.className name) → c.keyLookup name = .ok .none
  refused : ∀ asked, c.AskedAs name asked → (DynamicName.parse name).answersWhether →
    asked.outcome = .ok (.bool false) → c.keyLookup name = .ok .none

theorem AskedAs.resolved {asked : Run Value} (h : c.AskedAs name asked)
    (bare : DynamicName.finder? name = none) (token : (DynamicName.parse name).token ≠ "") :
    c.Resolved (DynamicName.parse name) (c.keyLookup name) asked.outcome := by
  cases h with
  | queried => exact resolved_query bare token
  | accessed unknown isPublic =>
    have no_finder : (DynamicName.parse name).isFinder = false := by
      rw [DynamicName.parse_of_finder?_eq_none bare, DynamicName.isFinder, DynamicName.attributes_bare]
      rfl
    rw [attr_of_bare unknown isPublic no_finder]
    exact resolved_resolve token

/-- A lookup that does not fail for an unsupported key is not taken for one that finds nothing. -/
theorem keepsErrors_of_supported (bare : DynamicName.finder? name = none)
    (token : (DynamicName.parse name).token ≠ "")
    (supported : ∀ e, c.keyLookup name = .error e → e.kind ≠ .unsupportedKey) :
    c.KeepsErrors name := by
  have named : (DynamicName.parse name).name = name := by
    rw [DynamicName.parse_of_finder?_eq_none bare, DynamicName.name_bare]
  have nothing (counts : CountsAsNothing (c.keyLookup name)) : c.keyLookup name = .ok .none := by
    rcases counts with none | ⟨e, failed, unsupported⟩
    · exact none
    · exact absurd unsupported (supported e failed)
  constructor
  · intro asked way e failed
    exact (way.resolved bare token).eq_error failed (supported e failed)
  · intro asked way unrecognized
    rw [← named] at unrecognized
    exact nothing ((way.resolved bare token).counts_of_unrecognized (lookup_bareKey_unnamed _)
      unrecognized)
  · intro asked way asks refused
    exact nothing (((way.resolved bare token).no_iff asks).1 refused)

/-- Checking some record fails so, for a key and what a default finder names. -/
def CheckFails (c : Collection) (key : Value) (e : Failure) : Prop :=
  ∃ m, Matcher.ofExpected key = .ok m ∧ ∃ r ∈ c.records, ∃ finder ∈ c.finders.names,
    (Search.checkEntry r (finder, m)).outcome = .error e

theorem checkFails_of_unsupported {e : Failure} (configured : c.finders.names ≠ [])
    (failed : c.keyLookup name = .error e) (unsupported : e.kind = .unsupportedKey) :
    c.CheckFails (bareKey (DynamicName.parse name)) e := by
  obtain ⟨m, plain⟩ := plainKey_bareKey (DynamicName.parse name)
  have fails := failsOnly_lookup (c := c)
    (P := fun e => e.kind = .unsupportedKey → c.CheckFails (bareKey (DynamicName.parse name)) e)
    ⟨?checks, ?scans, ?unconfigured⟩ plain
  · exact fails e failed unsupported
  case checks =>
    intro r hr finder hf e unchecked _
    exact ⟨m, plain.ofExpected_eq, r, hr, finder, hf, unchecked⟩
  case scans =>
    -- a scan turns the end of an iteration into another kind of failure and keeps the rest
    intro e check kind
    rw [Scan.kind_failure] at kind
    split at kind
    · cases kind
    · rename_i no_stop
      rw [Scan.failure, if_neg no_stop]
      exact check kind
  case unconfigured =>
    intro none
    exact absurd (List.isEmpty_iff.1 none) configured

/-- What asking for a bare name makes of the failures of its lookup. -/
structure NameErrors (c : Collection) (name : String) : Prop where
  /-- What is looked up: the token itself, or the pattern that finds it in any case. -/
  key_eq : bareKey (DynamicName.parse name) =
    if (DynamicName.parse name).mark = some .bang then .text (DynamicName.parse name).token
    else .pattern (Pattern.inAnyCase (DynamicName.parse name).token)
  keeps_iff : c.KeepsErrors name ↔
    ∀ e, c.keyLookup name = .error e → e.kind ≠ .unsupportedKey
  /-- What is not kept is the failure of a record, and it is answered as if nothing had been found. -/
  mistaken : ∀ e, c.keyLookup name = .error e → e.kind = .unsupportedKey →
    c.CheckFails (bareKey (DynamicName.parse name)) e ∧
      ∀ asked, c.AskedAs name asked → asked.outcome = c.nothingFor (DynamicName.parse name)

/-- Asking for a bare name keeps failures apart from names that are not known, except for the failures of
records that are of the kind for unsupported keys. -/
theorem errors_of_bare_name (configured : c.finders.names ≠ [])
    (bare : DynamicName.finder? name = none) (token : (DynamicName.parse name).token ≠ "") :
    c.NameErrors name := by
  have mistaken : ∀ e, c.keyLookup name = .error e → e.kind = .unsupportedKey →
      ∀ asked, c.AskedAs name asked → asked.outcome = c.nothingFor (DynamicName.parse name) :=
    fun e failed unsupported asked way => (way.resolved bare token).eq_nothingFor (.inr ⟨e, failed, unsupported⟩)
  refine ⟨?_, ⟨?_, keepsErrors_of_supported bare token⟩, ?_⟩
  · rw [bareKey_eq, DynamicName.parse_of_finder?_eq_none bare, DynamicName.exact_bare]
    simp
  · intro keeps e failed unsupported
    have through := keeps.raised _ .queried e failed
    rw [mistaken e failed unsupported _ .queried] at through
    exact nothingFor_ne_error unsupported through
  · intro e failed unsupported
    exact ⟨checkFails_of_unsupported configured failed unsupported, mistaken e failed unsupported⟩

end

/-- A record that fails with an error of value: asking for a name fails with it in both ways. -/
theorem errors_of_faulty_record :
    (faulty.query "x" []).outcome = .error (.raised .value "boom a") ∧
      (faulty.attr "x").outcome = .error (.raised .value "boom a") := by
  have errors : faulty.NameErrors "x" :=
    errors_of_bare_name (by decide) (by decide) (by decide)
  have failed : faulty.keyLookup "x" = .error (.raised .value "boom a") := by
    obtain ⟨m, plain⟩ := plainKey_bareKey (DynamicName.parse "x")
    exact lookup_faulty plain
  have keeps : faulty.KeepsErrors "x" := by
    refine errors.keeps_iff.2 fun e other => ?_
    rw [failed] at other
    cases other
    decide
  exact ⟨keeps.raised _ .queried _ failed, keeps.raised _ (.accessed rfl rfl) _ failed⟩

/-- A record whose attribute `a` fails as a lookup for an unsupported key does. -/
def unsupporting : Collection := faulty.withRecords [.record [] [("a", .unsupportedKey)]]

theorem lookup_unsupporting {key : Value} {m : Matcher} (plain : PlainKey key m) :
    (unsupporting.lookup key).outcome = .error (.raised .unsupportedKey "boom a") := by
  cases plain <;> rfl

/-- The failure of a record is taken for a name that is not known. -/
theorem errors_not_kept :
    ¬ ∀ (c : Collection) (name : String), c.finders.names ≠ [] →
      DynamicName.finder? name = none → (DynamicName.parse name).token ≠ "" → c.KeepsErrors name := by
  intro h
  have bare : DynamicName.finder? "x" = none := by decide
  have token : (DynamicName.parse "x").token ≠ "" := by decide
  have failed : unsupporting.keyLookup "x" = .error (.raised .unsupportedKey "boom a") := by
    obtain ⟨m, plain⟩ := plainKey_bareKey (DynamicName.parse "x")
    exact lookup_unsupporting plain
  have keeps := h unsupporting "x" (by decide) bare token
  have mistaken := (resolved_query bare token).eq_nothingFor (.inr ⟨_, failed, rfl⟩)
  rw [keeps.raised _ .queried _ failed] at mistaken
  exact nothingFor_ne_error rfl mistaken.symm

end Collection
end RecordQuery
