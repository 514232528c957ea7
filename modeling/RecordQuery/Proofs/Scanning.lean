import RecordQuery.Scan
/-!
What a scan comes to, for every test, failing ones included.

A scan for all elements has an answer exactly when every test has one (`outcome_all_eq_ok`), and then the
scan for the first element answers the head of it (`outcome_first_of_all`). The scan for the first element
ends at the first test that does not answer "no", with that element or with that failure
(`outcome_first_eq_ok`, `outcome_first_of_error`). Nothing behind the element at which it stops matters,
not even for the messages (`first_take_append`).
-/

namespace RecordQuery
namespace Scan

def passes (test : α → Run Bool) (x : α) : Bool :=
  match (test x).outcome with
  | .ok b => b
  | .error _ => false

def Answered (test : α → Run Bool) (x : α) : Prop := ∃ b, (test x).outcome = .ok b

def Refused (test : α → Run Bool) (x : α) : Prop := (test x).outcome = .ok false

/-- The scan for the first element stops at a position: the element there passes, and those before it
are refused. -/
structure StopsAt (test : α → Run Bool) (xs : List α) (i : Nat) (x : α) : Prop where
  at_position : xs[i]? = some x
  refused : ∀ y ∈ xs.take i, Refused test y
  passes : (test x).outcome = .ok true

theorem outcome_eq_ok_passes {test : α → Run Bool} {x : α} (h : Answered test x) :
    (test x).outcome = .ok (passes test x) := by
  obtain ⟨b, hb⟩ := h
  simp [passes, hb]

theorem passes_eq_true {test : α → Run Bool} {x : α} :
    passes test x = true ↔ (test x).outcome = .ok true := by
  unfold passes
  cases (test x).outcome <;> simp

theorem Refused.answered {test : α → Run Bool} {x : α} (h : Refused test x) : Answered test x :=
  ⟨false, h⟩

/-! ## The scan for all elements -/

/-- The scan for all elements has an answer exactly when every test has one: the elements that pass. -/
theorem outcome_all_eq_ok {test : α → Run Bool} {xs ys : List α} :
    (all test xs).outcome = .ok ys ↔
      (∀ x ∈ xs, Answered test x) ∧ ys = xs.filter (passes test) := by
  constructor
  · intro h
    have answered := test_of_outcome_all h
    refine ⟨answered, ?_⟩
    have kept := outcome_all fun x hx => outcome_eq_ok_passes (answered x hx)
    rw [kept] at h
    cases h; rfl
  · intro h
    obtain ⟨answered, rfl⟩ := h
    exact outcome_all fun x hx => outcome_eq_ok_passes (answered x hx)

theorem outcome_all_append_of_error {test : α → Run Bool} {x : α} {e : Failure}
    (hx : (test x).outcome = .error e) (before after : List α)
    (h : ∀ y ∈ before, Answered test y) :
    (all test (before ++ x :: after)).outcome = .error e := by
  induction before with
  | nil => exact Run.outcome_bind_of_error hx _
  | cons y before ih =>
    obtain ⟨⟨b, hb⟩, rest⟩ := List.forall_mem_cons.1 h
    rw [List.cons_append, all, Run.outcome_bind_of_ok hb]
    exact Run.outcome_bind_of_error (ih rest) _

theorem exists_of_outcome_all_eq_error {test : α → Run Bool} {xs : List α} {e : Failure}
    (h : (all test xs).outcome = .error e) : ∃ x ∈ xs, (test x).outcome = .error e := by
  induction xs with
  | nil => cases h
  | cons x xs ih =>
    rw [all] at h
    rcases Run.outcome_bind_eq_error.1 h with hx | ⟨b, _, h⟩
    · exact ⟨x, List.mem_cons_self, hx⟩
    · rcases Run.outcome_bind_eq_error.1 h with h | ⟨_, _, h⟩
      · obtain ⟨y, hy, he⟩ := ih h
        exact ⟨y, List.mem_cons_of_mem x hy, he⟩
      · cases h

/-! ## The scan for the first element -/

/-- Where the scan for all elements has an answer, the scan for the first one answers its head. -/
theorem outcome_first_of_all {test : α → Run Bool} {xs ys : List α}
    (h : (all test xs).outcome = .ok ys) : (first test xs).outcome = .ok ys.head? := by
  obtain ⟨answered, rfl⟩ := outcome_all_eq_ok.1 h
  rw [List.head?_filter]
  exact outcome_first fun x hx => outcome_eq_ok_passes (answered x hx)

theorem first_cons_of_refused {test : α → Run Bool} {x : α} {xs : List α} (h : Refused test x) :
    (first test (x :: xs)).outcome = (first test xs).outcome := by
  rw [first, Run.outcome_bind_of_ok h]; rfl

theorem first_cons_of_passes {test : α → Run Bool} {x : α} {xs : List α}
    (h : (test x).outcome = .ok true) : (first test (x :: xs)).outcome = .ok (some x) := by
  rw [first, Run.outcome_bind_of_ok h]; rfl

theorem first_cons_of_error {test : α → Run Bool} {x : α} {xs : List α} {e : Failure}
    (h : (test x).outcome = .error e) : (first test (x :: xs)).outcome = .error e :=
  Run.outcome_bind_of_error h _

theorem outcome_first_append {test : α → Run Bool} (before xs : List α)
    (h : ∀ y ∈ before, Refused test y) :
    (first test (before ++ xs)).outcome = (first test xs).outcome := by
  induction before with
  | nil => rfl
  | cons y before ih =>
    obtain ⟨hy, rest⟩ := List.forall_mem_cons.1 h
    rw [List.cons_append, first_cons_of_refused hy, ih rest]

theorem outcome_first_of_refused {test : α → Run Bool} {xs : List α}
    (h : ∀ x ∈ xs, Refused test x) : (first test xs).outcome = .ok none := by
  rw [← List.append_nil xs, outcome_first_append xs [] h]
  rfl

theorem first_append {test : α → Run Bool} {x : α} (hx : ¬ Refused test x) (before after : List α) :
    first test (before ++ x :: after) = first test (before ++ [x]) := by
  induction before with
  | nil =>
    show Run.bind (test x) _ = Run.bind (test x) _
    unfold Run.bind
    cases h : (test x).outcome with
    | error e => rfl
    | ok b =>
      cases b with
      | true => rfl
      | false => exact absurd h hx
  | cons y before ih => rw [List.cons_append, List.cons_append, first, first, ih]

/-- Every scan for the first element ends in one of three ways: no element passes, one passes before
any test fails, or one fails before any passes. -/
theorem first_cases (test : α → Run Bool) (xs : List α) :
    (∀ x ∈ xs, Refused test x) ∨
      ∃ before x after, xs = before ++ x :: after ∧ (∀ y ∈ before, Refused test y) ∧
        ¬ Refused test x := by
  induction xs with
  | nil => exact .inl (by simp)
  | cons x xs ih =>
    by_cases hx : Refused test x
    · rcases ih with h | ⟨before, y, after, rfl, hb, hy⟩
      · exact .inl (List.forall_mem_cons.2 ⟨hx, h⟩)
      · exact .inr ⟨x :: before, y, after, rfl, List.forall_mem_cons.2 ⟨hx, hb⟩, hy⟩
    · -- the scan ends at the first element
      exact .inr ⟨[], x, xs, rfl, by simp, hx⟩

/-- A list is what it has before a position, the element there, and what it has behind it. -/
theorem take_append_cons_drop {xs : List α} {i : Nat} {x : α} (h : xs[i]? = some x) :
    xs.take i ++ x :: xs.drop (i + 1) = xs := by
  obtain ⟨hi, rfl⟩ := List.getElem?_eq_some_iff.1 h
  rw [List.getElem_cons_drop, List.take_append_drop]

theorem outcome_first_of_stopsAt {test : α → Run Bool} {xs : List α} {i : Nat} {x : α}
    (h : StopsAt test xs i x) : (first test xs).outcome = .ok (some x) := by
  rw [← take_append_cons_drop h.at_position, outcome_first_append _ _ h.refused]
  exact first_cons_of_passes h.passes

/-- The scan for the first element fails at the first test that has no answer, if none passes before. -/
theorem outcome_first_of_error {test : α → Run Bool} {xs : List α} {i : Nat} {x : α} {e : Failure}
    (hx : xs[i]? = some x) (refused : ∀ y ∈ xs.take i, Refused test y)
    (h : (test x).outcome = .error e) : (first test xs).outcome = .error e := by
  rw [← take_append_cons_drop hx, outcome_first_append _ _ refused]
  exact first_cons_of_error h

theorem first_take_append {test : α → Run Bool} {xs : List α} {i : Nat} {x : α}
    (h : StopsAt test xs i x) (other : List α) :
    first test (xs.take (i + 1) ++ other) = first test xs := by
  have not_refused : ¬ Refused test x := by
    intro hx
    have := h.passes.symm.trans hx
    cases this
  have ends : xs.take (i + 1) = xs.take i ++ [x] := by
    obtain ⟨hi, hx⟩ := List.getElem?_eq_some_iff.1 h.at_position
    rw [List.take_succ_eq_append_getElem hi, hx]
  calc first test (xs.take (i + 1) ++ other)
      = first test (xs.take i ++ x :: other) := by
        rw [ends, List.append_assoc, List.singleton_append]
    _ = first test (xs.take i ++ [x]) := first_append not_refused _ _
    _ = first test (xs.take i ++ x :: xs.drop (i + 1)) := (first_append not_refused _ _).symm
    _ = first test xs := by rw [take_append_cons_drop h.at_position]

theorem outcome_first_eq_ok {test : α → Run Bool} {xs : List α} {o : Option α} :
    (first test xs).outcome = .ok o ↔
      (o = none ∧ ∀ x ∈ xs, Refused test x) ∨ ∃ i x, o = some x ∧ StopsAt test xs i x := by
  constructor
  · intro h
    -- a scan refuses everything or comes to an element that it does not refuse
    rcases first_cases test xs with refused | ⟨before, x, after, rfl, hb, hx⟩
    · rw [outcome_first_of_refused refused] at h
      cases h
      exact .inl ⟨rfl, refused⟩
    · rw [outcome_first_append _ _ hb] at h
      cases hc : (test x).outcome with
      | error e => rw [first_cons_of_error hc] at h; cases h
      | ok b =>
        cases b with
        | false => exact absurd hc hx
        | true =>
          rw [first_cons_of_passes hc] at h
          cases h
          exact .inr ⟨before.length, x, rfl, by simp, by simpa using hb, hc⟩
  · intro h
    rcases h with ⟨rfl, refused⟩ | ⟨i, x, rfl, h⟩
    · exact outcome_first_of_refused refused
    · exact outcome_first_of_stopsAt h

theorem find?_of_outcome_first {test : α → Run Bool} {xs : List α} {o : Option α}
    (h : (first test xs).outcome = .ok o) : o = xs.find? (passes test) := by
  induction xs with
  | nil => cases h; rfl
  | cons x xs ih =>
    rw [first] at h
    obtain ⟨b, hb, h⟩ := Run.outcome_bind_eq_ok.1 h
    have hp : passes test x = b := by simp [passes, hb]
    cases b with
    | true =>
      cases h
      rw [List.find?_cons_of_pos hp]
    | false =>
      rw [List.find?_cons_of_neg (by simp [hp])]
      exact ih h

theorem exists_of_outcome_first_eq_error {test : α → Run Bool} {xs : List α} {e : Failure}
    (h : (first test xs).outcome = .error e) : ∃ x ∈ xs, (test x).outcome = .error e := by
  rcases first_cases test xs with refused | ⟨before, x, after, rfl, hb, hx⟩
  · rw [outcome_first_of_refused refused] at h
    cases h
  · rw [outcome_first_append _ _ hb] at h
    refine ⟨x, by simp, ?_⟩
    cases hc : (test x).outcome with
    | error e' => rw [first_cons_of_error hc] at h; cases h; rfl
    | ok b =>
      cases b with
      | true => rw [first_cons_of_passes hc] at h; cases h
      | false => exact absurd hc hx

/-! ## Scans that report their failure -/

theorem outcome_guarded_eq_ok {r : Run α} {a : α} :
    (guarded r).outcome = .ok a ↔ r.outcome = .ok a := Run.outcome_mapFailure_eq_ok

theorem outcome_guarded_eq_error {r : Run α} {e : Failure} :
    (guarded r).outcome = .error e ↔ ∃ cause, r.outcome = .error cause ∧ failure cause = e :=
  Run.outcome_mapFailure_eq_error

theorem failure_of_stopIteration {e : Failure} (h : e.kind = .stopIteration) :
    failure e = .scanStopped e := if_pos h

theorem kind_failure (e : Failure) :
    (failure e).kind = if e.kind = .stopIteration then .runtime else e.kind := by
  unfold failure
  split <;> rfl

theorem isType_failure (e : Failure) : (failure e).kind.isType = e.kind.isType := by
  rw [kind_failure]
  split
  · rename_i stop
    rw [stop]
    rfl
  · rfl

end Scan
end RecordQuery
