import RecordQuery.Failure.Basic
/-!
Whether a value counts as true.

Nothing, zero and everything empty count as false, all else as true. An odd object decides for itself
and may fail to.
-/

namespace RecordQuery

abbrev Checked (α : Type) := Except Failure α

def rangeLength (start stop step : Int) : Nat :=
  if step > 0 then ((stop - start + step - 1).fdiv step).toNat
  else if step < 0 then ((start - stop - step - 1).fdiv (-step)).toNat
  else 0

def rangeItems (start stop step : Int) : List Int :=
  (List.range (rangeLength start stop step)).map fun i : Nat => start + step * i

def Raised.failure (r : Raised) : Failure := .raised r.kind r.text

def Checked.ofMethod (r : Except Raised α) : Checked α := r.mapError Raised.failure

def Value.truth : Value → Checked Bool
  | .none | .missing => .ok false
  | .bool b => .ok b
  | .int n => .ok (n != 0)
  | .float x => .ok !x.isZero
  | .text s => .ok !s.isEmpty
  | .bytes b => .ok !b.isEmpty
  | .list items | .tuple items | .collection _ items _ => .ok !items.isEmpty
  | .dict entries | .map entries => .ok !entries.isEmpty
  | .search entries => .ok !entries.isEmpty
  | .range start stop step => .ok (rangeLength start stop step != 0)
  | .odd _ oddity => .ofMethod oddity.truth
  | _ => .ok true

end RecordQuery
