import RecordQuery.Proofs.LookupAgreement
import RecordQuery.Proofs.Messages
/-!
What the messages of a lookup by default finders tell.

A lookup goes through its finders and announces each one that it asks. Behind them it tells of the finder that
settled it, if one did (`lookups_traced`). Among these messages of its own there may be those of collections that
are asked on the way: a collection that is a record is asked for the attribute, and a function that a key brings
along may ask the collections that it finds (`Collection.Aside`). Both lookups are one run through finders
(`firstFound`), and what holds of its messages is shown there.
-/

namespace RecordQuery

/-! ## Asking one finder after the other -/

def announced (finders : List String) : List Event := finders.map fun finder => .builtFinder [finder]

/-- What a run through finders answers, and what its messages tell. -/
structure Traced (tells : List Event → List Message → Prop) (names : List String) (find : String → Run α)
    (nothing : α → Bool) (found : α → String → Event) (r : Run α) : Prop where
  /-- A result is that of a finder; the finders up to it are announced, and it is told of behind them. -/
  settled : ∀ a, r.outcome = .ok a → nothing a = false →
    ∃ before finder after, names = before ++ finder :: after ∧
      (∀ f ∈ before, ∃ b, (find f).outcome = .ok b ∧ nothing b) ∧ (find finder).outcome = .ok a ∧
        tells (announced (before ++ [finder]) ++ [found a finder]) r.messages
  /-- Without one, all finders are announced and nothing else is told. -/
  unsettled : ∀ a, r.outcome = .ok a → nothing a →
    (∀ f ∈ names, ∃ b, (find f).outcome = .ok b ∧ nothing b) ∧ tells (announced names) r.messages

section
variable {aside : Message → Prop} {tells tells' : List Event → List Message → Prop}
  {find : String → Run α} {nothing : α → Bool} {found : α → String → Event} {otherwise : Run α}
  {finder : String} {rest names : List String} {a : α}

theorem Traced.mono {r : Run α} (h : Traced tells names find nothing found r)
    (weaker : ∀ events messages, tells events messages → tells' events messages) :
    Traced tells' names find nothing found r where
  settled a answers some := by
    obtain ⟨before, finder, after, split, passed_on, finds, told⟩ := h.settled a answers some
    exact ⟨before, finder, after, split, passed_on, finds, weaker _ _ told⟩
  unsettled a answers none := (h.unsettled a answers none).imp_right (weaker _ _)

end

namespace Collection

/-- Messages that are not a lookup's own: all of them are those of collections. -/
inductive Aside (c : Collection) (key : Value) : Message → Prop
  /-- A record is a collection and is asked for the attribute of a finder. -/
  | record {cls : CollectionClass} {records : List Value} {finders : DefaultFinders} {name : String} {m : Message}
    (finder : name ∈ c.finders.names) (listed : .collection cls records finders ∈ c.records)
    (h : m ∈ ((Value.collection cls records finders).attr name).messages) : Aside c key m
  /-- A function that the key brings along asks collections that it reaches from what a record has. -/
  | reached {f record actual : Value} {name : String} {depth : Nat} {m : Message}
    (matcher : key = .matcher (.predicate f)) (finder : name ∈ c.finders.names) (listed : record ∈ c.records)
    (read : (record.read name).outcome = .ok actual)
    (h : @Reached (Answers.within depth) actual.orNone m) : Aside c key m
  /-- What the key brings along is itself a finder of a collection. -/
  | called {cls : CollectionClass} {records : List Value} {finders : DefaultFinders} {record actual : Value}
    {name method : String} {depth : Nat} {m : Message}
    (matcher : key = .matcher (.predicate (.finderCall cls records finders method)))
    (finder : name ∈ c.finders.names) (listed : record ∈ c.records)
    (read : (record.read name).outcome = .ok actual)
    (h : m ∈ (@query (Answers.within depth) ⟨cls, records, finders⟩ method [actual.orNone]).messages) :
    Aside c key m

section
variable {c : Collection} {key : Value} {name : String} {m : Message}

theorem Aside.deeper (h : Aside c key m) (literal : ∀ f, key ≠ .matcher (.predicate f)) : 0 < m.depth := by
  cases h with
  | record _ _ h =>
    obtain ⟨inner, _, rfl⟩ := List.mem_map.1 h
    exact Nat.succ_pos inner.depth
  | reached matcher => exact absurd matcher (literal _)
  | called matcher => exact absurd matcher (literal _)

/-! ## The lookups -/

end

section
variable [Answers] (c : Collection) (key : Value)

end

/-- What the messages of a lookup tell. -/
structure Tells (c : Collection) (key : Value) (events : List Event) (messages : List Message) : Prop where
  /-- They tell the given events in order, among messages of collections that are asked on the way. -/
  told : Told (Aside c key) events messages
  /-- Without a function in the key, the events are all that is told at the top. -/
  at_top : (∀ f, key ≠ .matcher (.predicate f)) → messages.filter (·.depth == 0) = events.map (⟨0, ·⟩)
  /-- If no record is a collection either, they are all that is told. -/
  alone : (∀ f, key ≠ .matcher (.predicate f)) →
    (∀ cls records finders, .collection cls records finders ∉ c.records) → messages = events.map (⟨0, ·⟩)

section
variable {c : Collection} {key : Value}

end

end Collection
end RecordQuery
