import RecordQuery.Value.Sequence
/-!
The operations on lists, as data.

An operation is what a program can do to a list, with its arguments. What it does to a plain list and what it
does to a collection is defined apart from each other.
-/

namespace RecordQuery

namespace Value

/-- A whole number; a truth value counts as one. -/
inductive IsInteger : Value → Prop
  | int (n : Int) : IsInteger (.int n)
  | bool (b : Bool) : IsInteger (.bool b)

/-- A bound that is given as a whole number, or not at all. -/
inductive IsBound : Value → Prop
  | none : IsBound .none
  | integer {v : Value} (h : v.IsInteger) : IsBound v

end Value

/-- What going through something gives: items one after the other, and then the end or a failure. -/
structure Walk where
  items : List Value
  failure : Option Failure

/-- What is gone through by an operation on a list: a value, the list itself, or something that gives some
items and then fails, as a generator may. It is not a second name for where a collection keeps its records. -/
inductive Items
  | value (v : Value)
  | itself
  | failing (given : List Value) (fault : Raised)

namespace Items

/-- Going through it, in an operation on a list with the given items. -/
def walk (self : List Value) : Items → Walk
  | value v =>
    match v.items? with
    | some items => ⟨items, none⟩
    | none => ⟨[], some (.notIterable v.builtinClassName)⟩
  | itself => ⟨self, none⟩
  | failing given fault => ⟨given, some fault.failure⟩

end Items

/-- The operations on lists. -/
inductive ListOperation
  | append (v : Value)
  | insert (index v : Value)
  | extend (given : Items)
  /-- The assignment `+=`, which leaves the same list under the name. -/
  | addAssign (given : Items)
  | remove (v : Value)
  | pop (index : Option Value)
  | clear
  | reverse
  | set (key v : Value)
  | setSlice (start stop step : Value) (given : Items)
  | delete (key : Value)
  | readAt (index : Value) (integer : index.IsInteger)
  | readSlice (start stop step : Value) (bounds : start.IsBound ∧ stop.IsBound ∧ step.IsBound)
  | length
  | contains (v : Value)
  /-- The position of a value; no upper bound is given as nothing. -/
  | index (v start stop : Value) (bounds : start.IsInteger ∧ stop.IsBound)
  | count (v : Value)
  | items
  | itemsReversed

end RecordQuery
