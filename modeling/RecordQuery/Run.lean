import RecordQuery.Failure.Basic
import RecordQuery.Value.Truth
/-!
Runs: what an operation answers or fails with, together with the messages that it leaves on the way.

Messages are data, kept also when the run fails. A message carries the depth at which it arose: zero
for the operation's own, more for those of collections that are records themselves and were asked for
an attribute on the way.
-/

namespace RecordQuery

/-- What a message tells. -/
inductive Event
  /-- Criteria on the given names were made into a predicate. -/
  | builtFinder (names : List String)
  | found (key : Value) (finder : String)
  | foundAll (count : Nat) (key : Value) (finder : String)
  | dynamicFinder (name : String) (attributes : List String)
  | noFinders (name : String)
  | noResponse (cls name : String) (failure : Failure)

def namesText (names : List String) : String :=
  "[" ++ commaSeparated (names.map Text.quoted) ++ "]"

namespace Event

def source : Event → String
  | .builtFinder _ => "pyqueryable.matchers"
  | _ => "pyqueryable.collections"

def text : Event → String
  | .builtFinder names => "Built finder for attributes " ++ namesText names
  | .found key finder => "Found " ++ key.printed ++ " by default finder " ++ Text.quoted finder
  | .foundAll count key finder =>
    "Found " ++ toString count ++ " records for " ++ key.printed ++ " by default finder " ++
      Text.quoted finder
  | .dynamicFinder name attributes =>
    "Dynamic finder " ++ Text.quoted name ++ " searching " ++ namesText attributes
  | .noFinders name => "No default finders to resolve " ++ Text.quoted name
  | .noResponse cls name failure =>
    Text.quoted cls ++ " does not respond to " ++ Text.quoted name ++ ": " ++ failure.message

end Event

/-- A message and the depth of collections at which it arose. -/
structure Message where
  depth : Nat
  event : Event

/-- A message of a collection that is a record of the collection at work. -/
def Message.deeper (m : Message) : Message := { m with depth := m.depth + 1 }

/-- An outcome with the messages left on the way to it. -/
structure Run (α : Type) where
  messages : List Message
  outcome : Checked α

namespace Run

def pure (a : α) : Run α := ⟨[], .ok a⟩

def fail (e : Failure) : Run α := ⟨[], .error e⟩

/-- A run that has an answer to go on with, followed by the next one. -/
def bind (r : Run α) (f : α → Run β) : Run β :=
  match r.outcome with
  | .ok a =>
    let next := f a
    ⟨r.messages ++ next.messages, next.outcome⟩
  | .error e => ⟨r.messages, .error e⟩

instance : Monad Run where
  pure := pure
  bind := bind

def ofChecked (r : Checked α) : Run α := ⟨[], r⟩

instance : MonadLift Checked Run := ⟨ofChecked⟩

/-! ## What the parts of a run are -/

@[simp] theorem outcome_pure (a : α) : (Pure.pure a : Run α).outcome = .ok a := rfl

@[simp] theorem messages_pure (a : α) : (Pure.pure a : Run α).messages = [] := rfl

@[simp] theorem outcome_fail (e : Failure) : (fail e : Run α).outcome = .error e := rfl

@[simp] theorem messages_fail (e : Failure) : (fail e : Run α).messages = [] := rfl

@[simp] theorem outcome_ofChecked (r : Checked α) : (ofChecked r).outcome = r := rfl

@[simp] theorem messages_ofChecked (r : Checked α) : (ofChecked r).messages = [] := rfl

theorem outcome_bind (r : Run α) (f : α → Run β) :
    (r >>= f).outcome = r.outcome >>= fun a => (f a).outcome := by
  show (bind r f).outcome = _
  unfold bind
  cases r.outcome <;> rfl

theorem outcome_bind_eq_ok {r : Run α} {f : α → Run β} {b : β} :
    (r >>= f).outcome = .ok b ↔ ∃ a, r.outcome = .ok a ∧ (f a).outcome = .ok b := by
  rw [outcome_bind]
  cases h : r.outcome with
  | ok a =>
    constructor
    · intro hb; exact ⟨a, rfl, hb⟩
    · intro h
      obtain ⟨_, ha, hb⟩ := h
      cases ha
      exact hb
  | error e =>
    constructor
    · intro hb; cases hb
    · intro h
      obtain ⟨_, ha, _⟩ := h
      cases ha

/-- A run that goes on fails exactly when its first part fails, or has an answer and the second part
fails. -/
theorem outcome_bind_eq_error {r : Run α} {f : α → Run β} {e : Failure} :
    (r >>= f).outcome = .error e ↔
      r.outcome = .error e ∨ ∃ a, r.outcome = .ok a ∧ (f a).outcome = .error e := by
  rw [outcome_bind]
  cases h : r.outcome with
  | ok a =>
    constructor
    · intro he; exact .inr ⟨a, rfl, he⟩
    · intro h
      rcases h with he | ⟨_, ha, he⟩
      · cases he
      · cases ha; exact he
  | error e' =>
    constructor
    · intro he; cases he; exact .inl rfl
    · intro h
      rcases h with he | ⟨_, ha, _⟩
      · cases he; rfl
      · cases ha

theorem outcome_bind_of_ok {r : Run α} {a : α} (h : r.outcome = .ok a) (f : α → Run β) :
    (r >>= f).outcome = (f a).outcome := by
  rw [outcome_bind, h]; rfl

theorem outcome_bind_of_error {r : Run α} {e : Failure} (h : r.outcome = .error e)
    (f : α → Run β) : (r >>= f).outcome = .error e := by
  rw [outcome_bind, h]; rfl

theorem messages_bind_of_ok {r : Run α} {a : α} (h : r.outcome = .ok a) (f : α → Run β) :
    (r >>= f).messages = r.messages ++ (f a).messages := by
  show (bind r f).messages = _
  unfold bind
  rw [h]

theorem messages_bind_of_error {r : Run α} {e : Failure} (h : r.outcome = .error e)
    (f : α → Run β) : (r >>= f).messages = r.messages := by
  show (bind r f).messages = _
  unfold bind
  rw [h]

theorem ext {r s : Run α} (hm : r.messages = s.messages) (ho : r.outcome = s.outcome) : r = s := by
  cases r; cases s; cases hm; cases ho; rfl

theorem bind_assoc (r : Run α) (f : α → Run β) (g : β → Run γ) :
    r >>= f >>= g = r >>= fun a => f a >>= g := by
  cases hr : r.outcome with
  | error e =>
    have h : (r >>= f).outcome = .error e := by rw [outcome_bind, hr]; rfl
    apply ext
    · rw [messages_bind_of_error h, messages_bind_of_error hr, messages_bind_of_error hr]
    · rw [outcome_bind, h, outcome_bind, hr]; rfl
  | ok a =>
    have h : (r >>= f).outcome = (f a).outcome := by rw [outcome_bind, hr]; rfl
    cases hf : (f a).outcome with
    | error e =>
      rw [hf] at h
      apply ext
      · rw [messages_bind_of_error h, messages_bind_of_ok hr, messages_bind_of_ok hr,
          messages_bind_of_error hf]
      · rw [outcome_bind, h, outcome_bind, hr]
        show _ = (f a >>= g).outcome
        rw [outcome_bind, hf]
    | ok b =>
      rw [hf] at h
      apply ext
      · rw [messages_bind_of_ok h, messages_bind_of_ok hr, messages_bind_of_ok hr,
          messages_bind_of_ok hf, List.append_assoc]
      · rw [outcome_bind, h, outcome_bind, hr]
        show _ = (f a >>= g).outcome
        rw [outcome_bind, hf]

instance : LawfulMonad Run := LawfulMonad.mk' Run
  (fun r => by
    show bind r pure = r
    unfold bind
    cases h : r.outcome <;> exact ext (by simp [pure]) h.symm)
  (fun a f => ext (List.nil_append _) rfl)
  bind_assoc

theorem outcome_map (f : α → β) (r : Run α) : (f <$> r).outcome = r.outcome.map f := by
  rw [← bind_pure_comp, outcome_bind]
  cases r.outcome <;> rfl

def tell (event : Event) : Run Unit := ⟨[⟨0, event⟩], .ok ()⟩

def handle (r : Run α) (f : Failure → Run α) : Run α :=
  match r.outcome with
  | .ok _ => r
  | .error e =>
    let next := f e
    ⟨r.messages ++ next.messages, next.outcome⟩

def mapFailure (f : Failure → Failure) (r : Run α) : Run α :=
  ⟨r.messages, match r.outcome with
    | .ok a => .ok a
    | .error e => .error (f e)⟩

def deeper (r : Run α) : Run α := { r with messages := r.messages.map Message.deeper }

@[simp] theorem outcome_tell (event : Event) : (tell event).outcome = .ok () := rfl

@[simp] theorem messages_tell (event : Event) : (tell event).messages = [⟨0, event⟩] := rfl

@[simp] theorem outcome_deeper (r : Run α) : r.deeper.outcome = r.outcome := rfl

@[simp] theorem messages_mapFailure (f : Failure → Failure) (r : Run α) :
    (r.mapFailure f).messages = r.messages := rfl

theorem outcome_mapFailure_eq_ok {r : Run α} {f : Failure → Failure} {a : α} :
    (r.mapFailure f).outcome = .ok a ↔ r.outcome = .ok a := by
  unfold mapFailure
  cases r.outcome <;> simp

theorem outcome_mapFailure_eq_error {r : Run α} {f : Failure → Failure} {e : Failure} :
    (r.mapFailure f).outcome = .error e ↔ ∃ cause, r.outcome = .error cause ∧ f cause = e := by
  unfold mapFailure
  cases r.outcome <;> simp

theorem outcome_handle_eq_ok {r : Run α} {f : Failure → Run α} {a : α} :
    (r.handle f).outcome = .ok a ↔
      r.outcome = .ok a ∨ ∃ e, r.outcome = .error e ∧ (f e).outcome = .ok a := by
  unfold handle
  cases h : r.outcome <;> simp [h]

theorem outcome_handle_eq_error {r : Run α} {f : Failure → Run α} {e : Failure} :
    (r.handle f).outcome = .error e ↔
      ∃ cause, r.outcome = .error cause ∧ (f cause).outcome = .error e := by
  unfold handle
  cases h : r.outcome <;> simp [h]

end Run
end RecordQuery
