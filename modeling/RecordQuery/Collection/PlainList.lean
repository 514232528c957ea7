import RecordQuery.Collection.ListOperation
/-!
Plain lists, as a specification: what each operation answers for a list of values, and the list after it.

Nothing here is shared with collections but values and their comparison. A negative index or bound counts from
the end; a bound that lies outside is moved to the nearest place. A slice stands for the positions between its
bounds whose distance from the first bound is a multiple of the step, from the last position down where the
step is negative.
-/

namespace RecordQuery
namespace PlainList

/-! ## Indices -/

/-- The position that an index stands for in a list of `n` items. -/
def at? (n : Nat) : (index : Int) → Option Nat
  | .ofNat i => if i < n then some i else none
  | .negSucc i => if i < n then some (n - 1 - i) else none

def subscript (n : Nat) (key : Value) : Checked Nat :=
  match key.index? with
  | some index => do
    match at? n (← index) with
    | some position => return position
    | none => .error .outOfRange
  | none => .error (.notAnIndex key.builtinClassName)

/-- An argument that counts places; it has to have the size of one. -/
def offset (v : Value) : Checked Int :=
  match v.index? with
  | some places => do
    let n ← places
    if n < -maxPosition - 1 ∨ maxPosition < n then .error .positionTooLarge else return n
  | none => .error (.notAnInteger v.builtinClassName)

def clamp (n : Nat) (lowest highest bound : Int) : Int :=
  max lowest (min highest (if bound < 0 then n + bound else bound))

/-! ## Slices -/

/-- A slice of a list of a certain length: its bounds are places of the list. -/
structure Part where
  start : Int
  stop : Int
  step : Int

def Part.holds (p : Part) (i : Nat) : Bool :=
  if 0 < p.step then p.start ≤ i ∧ i < p.stop ∧ p.step ∣ i - p.start
  else p.stop < i ∧ i ≤ p.start ∧ p.step ∣ p.start - i

/-- The positions that a slice stands for in a list of `n` items, in its order. -/
def Part.slots (p : Part) (n : Nat) : List Nat :=
  if 0 < p.step then (List.range n).filter p.holds else (List.range n).reverse.filter p.holds

def bound? (v : Value) : Checked (Option Int) :=
  match v with
  | .none => .ok none
  | v =>
    match v.index? with
    | some n => do return some (← n)
    | none => .error .badSliceBound

/-- The slice of a list of `n` items between bounds that may be missing. -/
def partOf (n : Nat) (start stop : Option Int) (step : Int) : Part :=
  if 0 < step then ⟨(start.map (clamp n 0 n)).getD 0, (stop.map (clamp n 0 n)).getD n, step⟩
  else ⟨(start.map (clamp n (-1) (n - 1))).getD (n - 1), (stop.map (clamp n (-1) (n - 1))).getD (-1), step⟩

/-- The slice of a list of `n` items by its bounds and step. The step is looked at first. -/
def part (n : Nat) (start stop step : Value) : Checked Part := do
  let step := (← bound? step).getD 1
  if step = 0 then .error .zeroStep
  else
    let start ← bound? start
    let stop ← bound? stop
    return partOf n start stop step

def pick (xs : List Value) (positions : List Nat) : List Value := positions.filterMap (xs[·]?)

/-- The list with the items of a slice replaced: a run of items by any others, else one by one. -/
def assign (xs : List Value) (p : Part) (new : List Value) : Checked (List Value) :=
  if p.step = 1 then .ok (xs.take p.start.toNat ++ new ++ xs.drop (max p.start p.stop).toNat)
  else
    let slots := p.slots xs.length
    if new.length = slots.length then .ok (xs.mapIdx fun i x => ((slots.zip new).lookup i).getD x)
    else .error (.assignSize new.length slots.length)

/-- The items that are assigned to a slice. What cannot be gone through at all is refused in words of the
assignment. -/
def newItems (xs : List Value) (p : Part) : Items → Checked (List Value)
  | .value v =>
    match v.items with
    | .ok new => .ok new
    | .error e =>
      if e.kind.isType then .error (if p.step = 1 then .notAssignable else .notAssignableByStep) else .error e
  | .itself => .ok xs
  | .failing _ fault => .error fault.failure

def setSlice (xs : List Value) (start stop step : Value) (given : Items) : Checked (List Value) := do
  let p ← part xs.length start stop step
  assign xs p (← newItems xs p given)

def deleteSlice (xs : List Value) (p : Part) : List Value :=
  pick xs ((List.range xs.length).filter fun i => !p.holds i)

/-! ## Items by value -/

def find (v : Value) : List Value → Checked (Option Nat)
  | [] => .ok none
  | x :: xs => do if ← x.sameItem v then return some 0 else return (← find v xs).map (· + 1)

def remove (xs : List Value) (v : Value) : Checked (List Value) := do
  match ← find v xs with
  | some i => return xs.eraseIdx i
  | none => .error (.raised .value "list.remove(x): x not in list")

/-- The first position between two places of an item that counts as equal to a value. -/
def index (xs : List Value) (v : Value) (low high : Nat) : Checked Nat := do
  match ← find v ((xs.take high).drop low) with
  | some i => return low + i
  | none => .error (.notInList (← Checked.ofMethod v.repr))

/-! ## Operations -/

def place (n : Nat) (bound : Value) : Checked Nat :=
  match bound.index? with
  | some places => do return (clamp n 0 n (← places)).toNat
  | none => .error .badSearchBound

/-- The place that an upper bound stands for, the end of the list if none is given. -/
def stopPlace (n : Nat) (bound : Value) : Checked Nat :=
  match bound with
  | .none => .ok n
  | bound => place n bound

/-- An operation that answers and leaves another list, or fails and leaves the list as it was. -/
def edited (xs : List Value) : Checked (Value × List Value) → Checked Value × List Value
  | .ok (answer, ys) => (.ok answer, ys)
  | .error e => (.error e, xs)

/-- The items of something put behind the list. What was given before a failure stays there, but a range with
more numbers than there are positions is refused at once. -/
def extend (xs : List Value) (given : Items) : Checked Value × List Value :=
  match given with
  | .value v => edited xs (do return (.none, xs ++ (← v.items)))
  | .itself => (.ok .none, xs ++ xs)
  | .failing items fault => (.error fault.failure, xs ++ items)

def set (xs : List Value) (key v : Value) : Checked (List Value) :=
  match key with
  | .slice start stop step => setSlice xs start stop step (.value v)
  | key => do return xs.set (← subscript xs.length key) v

def delete (xs : List Value) (key : Value) : Checked (List Value) :=
  match key with
  | .slice start stop step => do return deleteSlice xs (← part xs.length start stop step)
  | key => do return xs.eraseIdx (← subscript xs.length key)

def insert (xs : List Value) (index v : Value) : Checked (List Value) := do
  let i := (clamp xs.length 0 xs.length (← offset index)).toNat
  return xs.take i ++ v :: xs.drop i

def popAt (xs : List Value) (index : Int) : Checked (Value × List Value) :=
  match (at? xs.length index).bind fun p => (xs[p]?).map fun x => (x, xs.eraseIdx p) with
  | some result => .ok result
  | none => .error (if xs.isEmpty then .popFromEmpty else .popOutOfRange)

def pop (xs : List Value) (index : Option Value) : Checked (Value × List Value) :=
  match index with
  | some v => do popAt xs (← offset v)
  | none => popAt xs (-1)

def readAt (xs : List Value) (index : Value) : Checked Value := do
  match xs[← subscript xs.length index]? with
  | some x => return x
  | none => .error .outOfRange

def perform (xs : List Value) : ListOperation → Checked Value × List Value
  | .append v => (.ok .none, xs ++ [v])
  | .insert index v => edited xs (do return (.none, ← insert xs index v))
  | .extend given | .addAssign given => extend xs given
  | .remove v => edited xs (do return (.none, ← remove xs v))
  | .pop index => edited xs (pop xs index)
  | .clear => (.ok .none, [])
  | .reverse => (.ok .none, xs.reverse)
  | .set key v => edited xs (do return (.none, ← set xs key v))
  | .setSlice start stop step given => edited xs (do return (.none, ← setSlice xs start stop step given))
  | .delete key => edited xs (do return (.none, ← delete xs key))
  | .readAt index _ => (readAt xs index, xs)
  | .readSlice start stop step _ =>
    (do return .list (pick xs ((← part xs.length start stop step).slots xs.length)), xs)
  | .length => (.ok (.int xs.length), xs)
  | .contains v => (do return .bool (← find v xs).isSome, xs)
  | .index v start stop _ =>
    (do
      let low ← place xs.length start
      let high ← stopPlace xs.length stop
      return .int (← index xs v low high), xs)
  | .count v => (do return .int ((← xs.mapM (·.sameItem v)).count true), xs)
  | .items => (.ok (.list xs), xs)
  | .itemsReversed => (.ok (.list xs.reverse), xs)

end PlainList
end RecordQuery
