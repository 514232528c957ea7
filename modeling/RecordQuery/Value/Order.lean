import RecordQuery.Value.Sequence
/-!
The order of values: numbers by size, texts by code points, bytes, lists, tuples and slices item by
item. Values of other classes have no order.
-/

namespace RecordQuery

def orderLists [DecidableEq α] (order : α → α → Ordering) : List α → List α → Ordering
  | [], [] => .eq
  | [], _ :: _ => .lt
  | _ :: _, [] => .gt
  | x :: xs, y :: ys => if x = y then orderLists order xs ys else order x y

/-- The order of two numbers, if both are; a not-a-number has none, which is not a failure. -/
def Value.orderNumbers? : Value → Value → Option (Option Ordering)
  | .float a, .float b => some (a.order? b)
  | .float a, .int b => some (a.orderInt? b)
  | .float a, .bool b => some (a.orderInt? b.toNat)
  | .int a, .float b => some ((b.orderInt? a).map Ordering.swap)
  | .bool a, .float b => some ((b.orderInt? a.toNat).map Ordering.swap)
  | .int a, .int b => some (some (compare a b))
  | .int a, .bool b => some (some (compare a b.toNat))
  | .bool a, .int b => some (some (compare (a.toNat : Int) b))
  | .bool a, .bool b => some (some (compare a.toNat b.toNat))
  | _, _ => .none

def unordered : Failure := .primitive "order"

mutual

/-- The order of two values; no order is `none`. -/
def Value.order : Value → Value → Checked (Option Ordering)
  | .text a, .text b => .ok (some (orderLists (fun c d => compare c.toNat d.toNat) a.toList b.toList))
  | .bytes a, .bytes b => .ok (some (orderLists (fun c d => compare c.toNat d.toNat) a b))
  | .list xs, .list ys => orderItems xs ys
  | .tuple xs, .tuple ys => orderItems xs ys
  | .slice a b c, .slice d e f => do
    if ← a.sameItem d then
      if ← b.sameItem e then
        if ← c.sameItem f then return some .eq else c.order f
      else b.order e
    else a.order d
  | a, b =>
    match a.orderNumbers? b with
    | some o => .ok o
    | .none => .error unordered
termination_by structural a => a

def orderItems : List Value → List Value → Checked (Option Ordering)
  | [], [] => .ok (some .eq)
  | [], _ :: _ => .ok (some .lt)
  | _ :: _, [] => .ok (some .gt)
  | x :: xs, y :: ys => do if ← x.sameItem y then orderItems xs ys else x.order y
termination_by structural xs => xs

end
end RecordQuery
