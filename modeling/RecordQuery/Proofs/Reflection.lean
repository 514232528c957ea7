import RecordQuery.Function.Call
import RecordQuery.Proofs.BareNames
import RecordQuery.Proofs.FinderNames
/-!
Whether a collection says that it responds to a name, against what reading the attribute comes to.

The two go through the same members and the same grammar of names, and both resolve a bare name in the
same way, so that they agree (`true_iff`), with two exceptions: the names that only the class of a
collection has an attribute for, and the names that ask whether there is a match. For those the answer is
"yes" unseen, and there are collections on which the attribute cannot be read (`agrees_iff`).
-/

namespace RecordQuery
namespace Collection

/-! ## Members -/

def memberNames : List String :=
  recordField :: finderFields ++ methods ++ privateMethods ++ operatorMethods

theorem isSome_member? (c : Collection) (name : String) :
    (c.member? name).isSome = (name == recordField || finderFields.contains name || isMethod name) := by
  unfold member?
  split
  · rename_i field
    simp [field]
  · rename_i field
    rw [beq_false_of_ne field]
    cases finderFields.contains name <;> cases isMethod name <;> rfl

/-- What the class of a collection has that is no member has a name of the class only. -/
theorem classHas_or_recordField (c : Collection) (name : String) :
    (classHas name || name == recordField) =
      ((c.member? name).isSome || classOnlyNames.contains name) := by
  rw [isSome_member?, classHas]
  ac_rfl

theorem mem_memberNames {c : Collection} {name : String} (h : (c.member? name).isSome) :
    name ∈ memberNames := by
  rw [isSome_member?, isMethod] at h
  simp only [Bool.or_eq_true, beq_iff_eq, List.contains_iff_mem] at h
  simp only [memberNames, List.mem_append, List.mem_cons]
  grind

theorem last_of_memberNames : ∀ name ∈ memberNames, name.toList.getLast? ≠ some '\n' := by
  decide +kernel

theorem classOnlyNames_public : ∀ name ∈ classOnlyNames, isPrivate name = false →
    name = "mro" ∨ name = "register" := by
  decide +kernel

/-! ## Resolving a bare name -/

section
variable [Answers] {c : Collection} {name : String}

theorem failsOnly_resolve (h : c.ChecksOrdinarily) (n : DynamicName) :
    (c.resolve n).FailsOnly Failure.Ordinary := by
  obtain ⟨m, plain⟩ := plainKey_bareKey n
  have token : (c.tokenRecord n).FailsOnly Failure.Ordinary := by
    unfold tokenRecord
    split
    · exact Run.FailsOnly.pure _
    · -- that there are no finders is taken for no match, and any other failure goes through
      refine Run.FailsOnly.handle fun e he => ?_
      split
      · exact nofun
      · exact Run.FailsOnly.fail (failsOnly_lookup (h.lookupFailures plain) plain e he)
  refine token.bind fun record _ => ?_
  split
  · exact Run.FailsOnly.pure _
  · split
    · exact Run.FailsOnly.fail rfl
    · exact Run.FailsOnly.pure _

/-! ## Reading an attribute -/

theorem attr_of_member (h : (c.member? name).isSome) : ∃ v, (c.attr name).outcome = .ok v := by
  obtain ⟨v, hv⟩ := Option.isSome_iff_exists.1 h
  exact ⟨v, by rw [attr, hv]; rfl⟩

theorem attr_of_finder (unknown : c.member? name = none) (isPublic : isPrivate name = false)
    (h : (DynamicName.parse name).isFinder) : ∃ v, (c.attr name).outcome = .ok v := by
  refine ⟨.finderCall c.cls c.records c.finders name, ?_⟩
  rw [attr, unknown]
  simp [isPublic, h]

theorem attr_of_bare (unknown : c.member? name = none) (isPublic : isPrivate name = false)
    (h : (DynamicName.parse name).isFinder = false) :
    c.attr name = c.resolve (DynamicName.parse name) := by
  rw [attr, unknown]
  simp [isPublic, h]

/-! ## Responding to a name -/

theorem respondsTo_of_known (h : (classHas name || name == recordField) = true) :
    (c.respondsTo name).outcome = .ok true := by
  rw [respondsTo, if_pos h]
  rfl

theorem respondsTo_of_grammar (isPublic : isPrivate name = false)
    (h : ((DynamicName.parse name).isFinder || (DynamicName.parse name).answersWhether) = true) :
    (c.respondsTo name).outcome = .ok true := by
  rw [respondsTo]
  split
  · rfl
  · rw [isPublic, if_neg (by simp)]
    simp only [h]
    rfl

theorem respondsTo_of_bare (h : c.ChecksOrdinarily)
    (unknown : (classHas name || name == recordField) = false) (isPublic : isPrivate name = false)
    (bare : ((DynamicName.parse name).isFinder || (DynamicName.parse name).answersWhether) = false) :
    ∃ b, (c.respondsTo name).outcome = .ok b ∧
      (b = true ↔ ∃ v, (c.resolve (DynamicName.parse name)).outcome = .ok v) := by
  have probe : c.respondsTo name =
      (do let _ ← c.resolve (DynamicName.parse name); return true : Run Bool).handle fun e =>
        if e.kind.isOrdinary then do
          Run.tell (.noResponse c.className name e)
          return false
        else .fail e := by
    simp [respondsTo, unknown, isPublic, bare]
  rw [probe]
  cases resolved : (c.resolve (DynamicName.parse name)).outcome with
  | ok v =>
    refine ⟨true, Run.outcome_handle_eq_ok.2 (.inl ?_), by simp⟩
    exact Run.outcome_bind_of_ok resolved _
  | error e =>
    refine ⟨false, Run.outcome_handle_eq_ok.2 (.inr ⟨e, ?_, ?_⟩), by simp⟩
    · exact Run.outcome_bind_of_error resolved _
    · have ordinary : e.kind.isOrdinary = true := failsOnly_resolve h _ e resolved
      rw [if_pos ordinary]
      rfl

/-- A name that neither the collection nor its class has: the grammar of names decides, or the probe. -/
theorem respondsTo_of_unknown (h : c.ChecksOrdinarily) (isPublic : isPrivate name = false)
    (unknown : c.member? name = none)
    (unknown_to_class : (classHas name || name == recordField) = false) :
    ∃ b, (c.respondsTo name).outcome = .ok b ∧
      (b = true ↔ (∃ v, (c.attr name).outcome = .ok v) ∨
        (DynamicName.parse name).answersWhether) := by
  cases finder : (DynamicName.parse name).isFinder with
  | true =>
    have yes : (c.respondsTo name).outcome = .ok true :=
      respondsTo_of_grammar isPublic (by rw [finder, Bool.true_or])
    exact ⟨true, yes, by simp [attr_of_finder unknown isPublic finder]⟩
  | false =>
    cases asks : (DynamicName.parse name).answersWhether with
    | true =>
      -- "yes", whatever resolving the name would come to
      have yes : (c.respondsTo name).outcome = .ok true :=
        respondsTo_of_grammar isPublic (by rw [asks, Bool.or_true])
      exact ⟨true, yes, by simp⟩
    | false =>
      obtain ⟨b, answer, probed⟩ :=
        respondsTo_of_bare h unknown_to_class isPublic (by rw [finder, asks, Bool.or_false])
      refine ⟨b, answer, ?_⟩
      rw [attr_of_bare unknown isPublic finder, probed]
      simp

/-- Responding to a name always has an answer. It is "yes" where the attribute can be read, and unseen for
names that the class alone has and for names that ask whether there is a match. -/
theorem respondsTo_spec (h : c.ChecksOrdinarily) (isPublic : isPrivate name = false) :
    ∃ b, (c.respondsTo name).outcome = .ok b ∧
      (b = true ↔ (∃ v, (c.attr name).outcome = .ok v) ∨ classOnlyNames.contains name ∨
        (DynamicName.parse name).answersWhether) := by
  have known := classHas_or_recordField c name
  cases member : (c.member? name).isSome with
  | true =>
    rw [member, Bool.true_or] at known
    exact ⟨true, respondsTo_of_known known, by simp [attr_of_member member]⟩
  | false =>
    rw [member, Bool.false_or] at known
    cases classOnly : classOnlyNames.contains name with
    | true => exact ⟨true, respondsTo_of_known (known.trans classOnly), by simp⟩
    | false =>
      obtain ⟨b, answer, spec⟩ :=
        respondsTo_of_unknown h isPublic (by simpa using member) (known.trans classOnly)
      exact ⟨b, answer, by simpa using spec⟩

/-! ## Where the two disagree -/

/-- A record whose attribute `a` raises an error, and `a` is looked at to resolve a name. -/
def faulty : Collection := ⟨.base, [.record [] [("a", .value)]], ⟨["a"], by decide⟩⟩

theorem checksOrdinarily_faulty : faulty.ChecksOrdinarily := by
  constructor
  · intro r hr finder hf e he
    cases List.mem_singleton.1 hr
    cases List.mem_singleton.1 hf
    cases he
    rfl
  · intro r hr finder hf v read
    cases List.mem_singleton.1 hr
    cases List.mem_singleton.1 hf
    cases read

theorem lookup_faulty {key : Value} {m : Matcher} (plain : PlainKey key m) :
    (faulty.lookup key).outcome = .error (.raised .value "boom a") := by
  cases plain <;> rfl

theorem resolve_faulty {n : DynamicName} (h : n.token.isEmpty = false) :
    (faulty.resolve n).outcome = .error (.raised .value "boom a") := by
  obtain ⟨m, plain⟩ := plainKey_bareKey n
  have token : (faulty.tokenRecord n).outcome = .error (.raised .value "boom a") := by
    rw [tokenRecord, h, if_neg (by simp)]
    exact Run.outcome_handle_eq_error.2 ⟨_, lookup_faulty plain, rfl⟩
  exact Run.outcome_bind_of_error token _

theorem attr_faulty_of_asks (isPublic : isPrivate name = false)
    (unmarked : name.toList.getLast? ≠ some '?') {token : List Char}
    (asks : DynamicName.Asks name token) :
    (faulty.attr name).outcome = .error (.raised .value "boom a") := by
  have unknown : faulty.member? name = none := by
    cases member : faulty.member? name with
    | none => rfl
    | some v =>
      have last := last_of_memberNames name (mem_memberNames (by rw [member]; rfl))
      rw [asks.ends_of_unmarked unmarked] at last
      simp at last
  have finder : (DynamicName.parse name).isFinder = false := by
    rw [asks.parsed, DynamicName.isFinder, DynamicName.attributes_bare]
    rfl
  rw [attr_of_bare unknown isPublic finder]
  refine resolve_faulty (String.isEmpty_eq_false_iff.2 ?_)
  rw [asks.token_eq, Ne, String.ofList_eq_empty_iff]
  exact asks.nonempty

/-- What responding to a name says about reading the attribute of that name, for all collections whose
records are checked with ordinary failures only. -/
structure Reflected (name : String) : Prop where
  returns : ∀ c : Collection, c.ChecksOrdinarily → ∃ b, (c.respondsTo name).outcome = .ok b
  /-- "Yes" means that the attribute can be read, except for two names of the class and names that ask
  whether there is a match. -/
  true_iff : ∀ c : Collection, c.ChecksOrdinarily → ((c.respondsTo name).outcome = .ok true ↔
    (∃ v, (c.attr name).outcome = .ok v) ∨ name = "mro" ∨ name = "register" ∨
      (DynamicName.parse name).answersWhether)
  /-- A name that does not end in the mark asks all the same if a line feed stands behind the mark. -/
  asks_before_lineFeed : (DynamicName.parse name).answersWhether →
    ∃ token, name.toList = token ++ ['?', '\n']
  /-- The exceptions are needed: for each of these names there is a collection that says "yes" where the
  attribute cannot be read. -/
  agrees_iff : (∀ c : Collection, c.ChecksOrdinarily →
    ((c.respondsTo name).outcome = .ok true ↔ ∃ v, (c.attr name).outcome = .ok v)) ↔
      name ≠ "mro" ∧ name ≠ "register" ∧ (DynamicName.parse name).answersWhether = false

theorem respondsTo_eq_true_iff (h : c.ChecksOrdinarily) (isPublic : isPrivate name = false) :
    (c.respondsTo name).outcome = .ok true ↔ (∃ v, (c.attr name).outcome = .ok v) ∨ name = "mro" ∨
      name = "register" ∨ (DynamicName.parse name).answersWhether := by
  obtain ⟨b, answer, spec⟩ := respondsTo_spec h isPublic
  have classOnly : classOnlyNames.contains name ↔ name = "mro" ∨ name = "register" := by
    rw [List.contains_iff_mem]
    constructor
    · exact fun there => classOnlyNames_public name there isPublic
    · intro h
      rcases h with rfl | rfl <;> decide
  rw [answer, Except.ok.injEq, spec, classOnly, or_assoc]

/-- Reflection against access, for every name that is resolved dynamically and does not end in `?`. -/
theorem respondsTo_reflects {name : String} (isPublic : isPrivate name = false)
    (unmarked : name.toList.getLast? ≠ some '?') : Reflected name := by
  refine ⟨?_, fun c h => respondsTo_eq_true_iff h isPublic, ?_, ?_, ?_⟩
  · intro c h
    obtain ⟨b, answer, _⟩ := respondsTo_spec h isPublic
    exact ⟨b, answer⟩
  · intro h
    obtain ⟨token, asks⟩ := DynamicName.asks_of_answersWhether h
    exact ⟨token, asks.ends_of_unmarked unmarked⟩
  · -- each exception is refuted by a collection: an empty one, or the faulty one
    intro agrees
    have readable (c : Collection) (h : c.ChecksOrdinarily) (excepted : name = "mro" ∨
        name = "register" ∨ (DynamicName.parse name).answersWhether) :
        ∃ v, (c.attr name).outcome = .ok v :=
      (agrees c h).1 ((respondsTo_eq_true_iff h isPublic).2 (.inr excepted))
    refine ⟨?_, ?_, ?_⟩
    · intro same
      subst same
      obtain ⟨v, hv⟩ := readable ⟨.base, [], .none⟩ ⟨nofun, nofun⟩ (.inl rfl)
      cases hv
    · intro same
      subst same
      obtain ⟨v, hv⟩ := readable ⟨.base, [], .none⟩ ⟨nofun, nofun⟩ (.inr (.inl rfl))
      cases hv
    · -- a question responds without a lookup, which fails in the faulty collection
      cases asking : (DynamicName.parse name).answersWhether with
      | false => rfl
      | true =>
        obtain ⟨v, hv⟩ := readable faulty checksOrdinarily_faulty (.inr (.inr asking))
        obtain ⟨token, asks⟩ := DynamicName.asks_of_answersWhether asking
        rw [attr_faulty_of_asks isPublic unmarked asks] at hv
        cases hv
  · intro excepted c h
    obtain ⟨not_mro, not_register, not_asking⟩ := excepted
    rw [respondsTo_eq_true_iff h isPublic]
    simp [not_mro, not_register, not_asking]

end

/-- An object whose attribute `a` is looked at to resolve a name. -/
def letters : Collection := ⟨.base, [.record [("a", .text "x")] []], ⟨["a"], by decide⟩⟩

theorem checksOrdinarily_letters : letters.ChecksOrdinarily := by
  constructor
  · intro r hr finder hf e he
    cases List.mem_singleton.1 hr
    cases List.mem_singleton.1 hf
    cases he
  · intro r hr finder hf v read key m plain e he
    cases List.mem_singleton.1 hr
    cases List.mem_singleton.1 hf
    cases read
    -- a text has an answer for both, found or not
    have answered : Scan.Answered m.accepts (.text "x") := by
      cases plain with
      | text t => exact ⟨_, Search.outcome_accepts_literal _ _⟩
      | pattern p => exact ⟨_, rfl⟩
    obtain ⟨b, answer⟩ := answered
    rw [show ((Value.text "x").orNone) = Value.text "x" from rfl, answer] at he
    cases he

/-- A bare name and a name of a method: responding and reading agree. -/
theorem respondsTo_x_and_count :
    (∃ b, (letters.respondsTo "x").outcome = .ok b) ∧
      ((letters.respondsTo "x").outcome = .ok true ↔ ∃ v, (letters.attr "x").outcome = .ok v) ∧
      ((letters.respondsTo "count").outcome = .ok true ↔
        ∃ v, (letters.attr "count").outcome = .ok v) := by
  have checks := checksOrdinarily_letters
  have x : Reflected "x" := respondsTo_reflects rfl (by decide)
  have count : Reflected "count" := respondsTo_reflects rfl (by decide)
  refine ⟨x.returns letters checks, x.agrees_iff.2 ⟨by decide, by decide, ?_⟩ letters checks,
    count.agrees_iff.2 ⟨by decide, by decide, ?_⟩ letters checks⟩
  all_goals decide +kernel

/-- A collection responds to the name of a method of its class's class, which it does not have. -/
theorem respondsTo_mro_unreadable :
    ¬ ∀ (c : Collection) (name : String), isPrivate name = false →
      name.toList.getLast? ≠ some '?' → c.ChecksOrdinarily →
        ((c.respondsTo name).outcome = .ok true ↔ ∃ v, (c.attr name).outcome = .ok v) := by
  intro h
  obtain ⟨v, hv⟩ := (h letters "mro" rfl (by decide) checksOrdinarily_letters).1 rfl
  cases hv

end Collection
end RecordQuery
