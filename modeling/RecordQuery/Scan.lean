import RecordQuery.Run
/-!
Scans over a list with a test that may fail: the first element that passes, and all that do.

The elements are tested in order. The first failure ends a scan; the scan for the first element does
not look at the elements after it.
-/

namespace RecordQuery
namespace Scan

def first (test : α → Run Bool) : List α → Run (Option α)
  | [] => pure none
  | x :: xs => do if ← test x then pure (some x) else first test xs

def all (test : α → Run Bool) : List α → Run (List α)
  | [] => pure []
  | x :: xs => do
    let passes ← test x
    let rest ← all test xs
    return if passes then x :: rest else rest

/-- Where the test answers `p`, the scan for the first element is a search with `p`. -/
theorem outcome_first {test : α → Run Bool} {p : α → Bool} :
    ∀ {xs : List α}, (∀ x ∈ xs, (test x).outcome = .ok (p x)) →
      (first test xs).outcome = .ok (xs.find? p)
  | [], _ => rfl
  | x :: xs, h => by
    rw [first, Run.outcome_bind, h x (by simp)]
    cases hp : p x with
    | true => simp [hp]; rfl
    | false =>
      rw [List.find?_cons_of_neg (by simp [hp])]
      exact outcome_first fun y hy => h y (List.mem_cons_of_mem _ hy)

/-- Where the test answers `p`, the scan for all elements keeps those of `p`. -/
theorem outcome_all {test : α → Run Bool} {p : α → Bool} :
    ∀ {xs : List α}, (∀ x ∈ xs, (test x).outcome = .ok (p x)) →
      (all test xs).outcome = .ok (xs.filter p)
  | [], _ => rfl
  | x :: xs, h => by
    have ih := outcome_all fun y hy => h y (List.mem_cons_of_mem x hy)
    rw [all, Run.outcome_bind, h x (by simp)]
    show (all test xs >>= _).outcome = _
    rw [Run.outcome_bind, ih]
    cases hp : p x <;> simp [hp] <;> rfl

theorem test_of_outcome_all {test : α → Run Bool} :
    ∀ {xs ys : List α}, (all test xs).outcome = .ok ys → ∀ x ∈ xs, ∃ b, (test x).outcome = .ok b
  | [], _, _, x, hx => by cases hx
  | y :: xs, _, h, x, hx => by
    obtain ⟨b, hb, h⟩ := Run.outcome_bind_eq_ok.1 h
    obtain ⟨zs, hz, _⟩ := Run.outcome_bind_eq_ok.1 h
    cases hx with
    | head => exact ⟨b, hb⟩
    | tail _ hx => exact test_of_outcome_all hz x hx

/-- The failure of a scan: the signal that an iteration is over is no ordinary end of it. -/
def failure (e : Failure) : Failure :=
  if e.kind = .stopIteration then .scanStopped e else e

def guarded (r : Run α) : Run α := r.mapFailure failure

end Scan
end RecordQuery
