import RecordQuery.Value.Sequence
/-!
Slices of lists: which positions a slice addresses, and reading, writing and deleting through it.

A bound counts from the end when it is negative and is moved to the nearest place of the list when it
lies outside. A slice of step one is a contiguous part, which may be replaced by a list of any length;
any other slice is replaced position by position.
-/

namespace RecordQuery

/-- A slice of a list. The step is not zero. -/
structure Slice where
  start : Option Int
  stop : Option Int
  step : Int

namespace Slice

def backward (s : Slice) : Bool := s.step < 0

/-- A bound as a place of a list of `n` items; a backward slice has a place before the first item, a
forward one a place after the last. -/
def place (s : Slice) (n : Nat) (bound : Int) : Int :=
  let i := if bound < 0 then bound + n else bound
  if s.backward then max (-1) (min i (n - 1)) else max 0 (min i n)

/-- Where the slice begins in a list of `n` items. -/
def first (s : Slice) (n : Nat) : Int :=
  match s.start with
  | some bound => s.place n bound
  | none => if s.backward then n - 1 else 0

/-- The place that the slice ends before in a list of `n` items. -/
def last (s : Slice) (n : Nat) : Int :=
  match s.stop with
  | some bound => s.place n bound
  | none => if s.backward then -1 else n

/-- The positions that the slice addresses in a list of `n` items, in its order. -/
def positions (s : Slice) (n : Nat) : List Nat :=
  (rangeItems (s.first n) (s.last n) s.step).map Int.toNat

def read (s : Slice) (xs : List α) : List α := (s.positions xs.length).filterMap (xs[·]?)

/-- The list with its part from `low` up to `high` replaced. An empty part stands before `low`. -/
def splice (xs : List α) (low high : Nat) (new : List α) : List α :=
  xs.take low ++ new ++ xs.drop (max low high)

def setAll : List (Nat × α) → List α → List α
  | [], xs => xs
  | (i, x) :: rest, xs => setAll rest (xs.set i x)

def dropAll (positions : List Nat) (xs : List α) : List α :=
  (xs.zipIdx.filter fun e => !positions.contains e.2).map (·.1)

/-- The list with the slice replaced by new items. A slice of another step than one takes exactly as
many as it addresses. -/
def write (s : Slice) (xs new : List α) : Checked (List α) :=
  if s.step = 1 then .ok (splice xs (s.first xs.length).toNat (s.last xs.length).toNat new)
  else
    let positions := s.positions xs.length
    if new.length = positions.length then .ok (setAll (positions.zip new) xs)
    else .error (.assignSize new.length positions.length)

def delete (s : Slice) (xs : List α) : List α :=
  if s.step = 1 then splice xs (s.first xs.length).toNat (s.last xs.length).toNat []
  else dropAll (s.positions xs.length) xs

/-- A bound of a slice: nothing, or an index of any size. -/
def boundOf (v : Value) : Checked (Option Int) :=
  match v with
  | .none => .ok none
  | v =>
    match v.index? with
    | some n => do return some (← n)
    | none => .error .badSliceBound

/-- The slice of the given bounds and step, which is looked at first. -/
def ofBounds (start stop step : Value) : Checked Slice := do
  let step := (← boundOf step).getD 1
  if step = 0 then .error .zeroStep
  else
    let start ← boundOf start
    let stop ← boundOf stop
    return ⟨start, stop, step⟩

/-- The slice of bounds and a step that are whole numbers or not given; without a step it goes on by one. -/
def ofIntegers (start stop step : Value) : Slice :=
  ⟨start.integer?, stop.integer?, step.integer?.getD 1⟩

end Slice
end RecordQuery
