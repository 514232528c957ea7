import RecordQuery.Collection.Slice
/-!
A list of records as a mutable sequence.

Reading, writing and deleting by index and slice, insertion, removal and counting are the primitives.
Appending, extending, reversing, clearing and removing by value are made of them, as loops.
-/

namespace RecordQuery
namespace Sequence

/-- What reading with a native key gives: one item or a part of the list. -/
inductive Selected (α : Type)
  | item (a : α)
  | part (items : List α)

/-- A native key of a list. -/
inductive Key
  | index (n : Int)
  | slice (s : Slice)

/-- The native key that a value is: an index of the size of a position, or a slice. -/
def keyOf (v : Value) : Checked Key :=
  match v with
  | .slice start stop step => do return .slice (← Slice.ofBounds start stop step)
  | v =>
    match v.index? with
    | some n => do
      let n ← n
      if Value.fitsPosition n then return .index n else .error (.indexTooLarge v.builtinClassName)
    | none => .error (.notAnIndex v.builtinClassName)

/-- The position that an index addresses in a list of `n` items: a negative one counts from the end. -/
def position? (n : Nat) (index : Int) : Option Nat :=
  let i := if index < 0 then index + n else index
  if 0 ≤ i ∧ i < n then some i.toNat else none

def select (xs : List α) (key : Key) : Checked (Selected α) :=
  match key with
  | .slice s => .ok (.part (s.read xs))
  | .index i =>
    match (position? xs.length i).bind (xs[·]?) with
    | some x => .ok (.item x)
    | none => .error .outOfRange

def get (xs : List α) (key : Value) : Checked (Selected α) := do select xs (← keyOf key)

def assigned (s : Slice) (v : Value) : Checked (List Value) :=
  match v.items with
  | .ok items => .ok items
  | .error e =>
    if e.kind.isType then
      .error (if s.step = 1 then .notAssignable else .notAssignableByStep)
    else .error e

def setAt (xs : List α) (index : Int) (x : α) : Checked (List α) :=
  match position? xs.length index with
  | some i => .ok (xs.set i x)
  | none => .error .assignOutOfRange

/-- The list with the items under a native key replaced: by one value, or by the items of one. -/
def set (xs : List Value) (key v : Value) : Checked (List Value) := do
  match ← keyOf key with
  | .index i => setAt xs i v
  | .slice s => s.write xs (← assigned s v)

def deleteAt (xs : List α) (index : Int) : Checked (List α) :=
  match position? xs.length index with
  | some i => .ok (xs.eraseIdx i)
  | none => .error .assignOutOfRange

def delete (xs : List α) (key : Value) : Checked (List α) := do
  match ← keyOf key with
  | .index i => deleteAt xs i
  | .slice s => return s.delete xs

def positionOf (v : Value) : Checked Int :=
  match v.index? with
  | some n => do
    let n ← n
    if Value.fitsPosition n then return n else .error .positionTooLarge
  | none => .error (.notAnInteger v.builtinClassName)

/-- The list with an item put in before a position; a position outside counts as the nearest one. -/
def insertAt (xs : List α) (index : Int) (x : α) : List α :=
  let i := if index < 0 then max 0 (index + xs.length) else index
  xs.insertIdx (min i.toNat xs.length) x

def insert (xs : List Value) (index v : Value) : Checked (List Value) := do
  return insertAt xs (← positionOf index) v

def popAt (xs : List α) (index : Int) : Checked (α × List α) :=
  if xs.isEmpty then .error .popFromEmpty
  else
    match (position? xs.length index).bind fun i => (xs[i]?).map fun x => (x, xs.eraseIdx i) with
    | some result => .ok result
    | none => .error .popOutOfRange

/-- The item at a position, the last one if none is given, and the list without it. -/
def pop (xs : List Value) (index : Option Value) : Checked (Value × List Value) :=
  match index with
  | none => popAt xs (-1)
  | some v => do popAt xs (← positionOf v)

/-- A bound of a search for a value: an index of any size. -/
def searchBound (n : Nat) (v : Value) : Checked Nat :=
  match v.index? with
  | some i => do
    let i ← i
    return (if i < 0 then max 0 (i + n) else i).toNat
  | none => .error .badSearchBound

/-- The position of the first item from `position` on that counts as equal to a value. -/
def findFrom (v : Value) : (position : Nat) → List Value → Checked (Option Nat)
  | _, [] => .ok none
  | position, x :: xs => do
    if ← x.sameItem v then return some position else findFrom v (position + 1) xs

/-- The failure to find a value, with the value printed in the message. -/
def notFound (v : Value) : Checked α := do .error (.notInList (← Checked.ofMethod v.repr))

def indexOf (xs : List Value) (v : Value) (start stop : Value) : Checked Nat := do
  let low ← searchBound xs.length start
  let high ← match stop with
    | .none => .ok xs.length
    | stop => searchBound xs.length stop
  match ← findFrom v low ((xs.take high).drop low) with
  | some i => return i
  | none => notFound v

def count (v : Value) : List Value → Checked Nat
  | [] => .ok 0
  | x :: xs => do
    let same ← x.sameItem v
    let rest ← count v xs
    return if same then rest + 1 else rest

/-! ## Operations made of the primitives -/

def append (xs : List α) (x : α) : List α := insertAt xs xs.length x

def appendAll (xs : List α) : List α → List α
  | [] => xs
  | x :: rest => appendAll (append xs x) rest

theorem append_eq_concat (xs : List α) (x : α) : append xs x = xs ++ [x] := by
  have h : ¬ ((xs.length : Int) < 0) := by omega
  rw [append, insertAt, if_neg h, Int.toNat_natCast, Nat.min_self, List.insertIdx_length_self]

theorem appendAll_eq_append (xs ys : List α) : appendAll xs ys = xs ++ ys := by
  induction ys generalizing xs with
  | nil => simp [appendAll]
  | cons y ys ih => rw [appendAll, ih, append_eq_concat, List.append_assoc]; rfl

def extend (xs : List Value) (v : Value) : Checked (List Value) :=
  match v.items? with
  | some items => .ok (appendAll xs items)
  | none => .error (.notIterable v.builtinClassName)

def remove (xs : List Value) (v : Value) : Checked (List Value) := do
  deleteAt xs (← indexOf xs v (.int 0) .none)

def swap (xs : List α) (i j : Nat) : List α :=
  match xs[i]?, xs[j]? with
  | some x, some y => (xs.set i y).set j x
  | _, _ => xs

/-- The list with the first `count` items exchanged with the last ones, from the outside in. -/
def swapEnds (xs : List α) : (count : Nat) → List α
  | 0 => xs
  | count + 1 =>
    let swapped := swapEnds xs count
    swap swapped count (xs.length - 1 - count)

def reverse (xs : List α) : List α := swapEnds xs (xs.length / 2)

/-- The list after up to `count` removals of its last item. -/
def popTimes : (count : Nat) → List α → List α
  | 0, xs => xs
  | count + 1, xs =>
    match popAt xs (-1) with
    | .ok (_, rest) => popTimes count rest
    | .error _ => xs

/-- The list without any item: the last one is removed until there is none. -/
def clear (xs : List α) : List α := popTimes (xs.length + 1) xs

/-! ## What the loops come to -/

theorem popAt_last (xs : List α) (x : α) : popAt (xs ++ [x]) (-1) = .ok (x, xs) := by
  have hp : position? (xs ++ [x]).length (-1) = some xs.length := by
    have length : (xs ++ [x]).length = xs.length + 1 := List.length_append
    have last : (if (-1 : Int) < 0 then -1 + ((xs.length + 1 : Nat) : Int) else -1) = xs.length := by
      rw [if_pos (by decide)]
      omega
    simp only [position?, length, last]
    rw [if_pos (by omega), Int.toNat_natCast]
  have hx : (xs ++ [x])[xs.length]? = some x := by simp
  have he : (xs ++ [x]).eraseIdx xs.length = xs := by
    rw [List.eraseIdx_append_of_length_le (Nat.le_refl _)]
    simp
  rw [popAt, if_neg (by simp), hp]
  simp only [Option.bind_some, hx, he, Option.map_some]

theorem popTimes_eq_nil (xs : List α) : ∀ {count : Nat}, xs.length ≤ count → popTimes count xs = [] := by
  intro count
  induction count generalizing xs with
  | zero => intro h; simpa [popTimes] using h
  | succ count ih =>
    intro h
    rcases xs.eq_nil_or_concat with rfl | ⟨ys, y, rfl⟩
    · rfl
    · rw [List.concat_eq_append, popTimes, popAt_last]
      exact ih ys (by simp at h; omega)

theorem clear_eq_nil (xs : List α) : clear xs = [] := popTimes_eq_nil xs (by omega)

@[simp] theorem length_swap (xs : List α) (i j : Nat) : (swap xs i j).length = xs.length := by
  unfold swap
  split <;> simp

theorem getElem?_swap {xs : List α} {i j : Nat} (hi : i < xs.length) (hj : j < xs.length) (k : Nat) :
    (swap xs i j)[k]? = if k = j then xs[i]? else if k = i then xs[j]? else xs[k]? := by
  have hi' : xs[i]? = some xs[i] := List.getElem?_eq_getElem hi
  have hj' : xs[j]? = some xs[j] := List.getElem?_eq_getElem hj
  simp only [swap, hi', hj', List.getElem?_set, List.length_set]
  by_cases hkj : k = j
  · subst hkj; simp [hj]
  · by_cases hki : k = i
    · subst hki; simp [hkj, hi, Ne.symm hkj]
    · simp [hkj, hki, Ne.symm hkj, Ne.symm hki]

@[simp] theorem length_swapEnds (xs : List α) (count : Nat) :
    (swapEnds xs count).length = xs.length := by
  induction count with
  | zero => rfl
  | succ count ih => rw [swapEnds, length_swap, ih]

/-- The exchanged ends hold the opposite items; the middle is as it was. -/
theorem getElem?_swapEnds {xs : List α} {count : Nat} (h : 2 * count ≤ xs.length) (k : Nat)
    (hk : k < xs.length) :
    (swapEnds xs count)[k]? =
      if k < count ∨ xs.length ≤ k + count then xs[xs.length - 1 - k]? else xs[k]? := by
  induction count generalizing k with
  | zero => rw [swapEnds, if_neg (by omega)]
  | succ count ih =>
    have hl := length_swapEnds xs count
    rw [swapEnds, getElem?_swap (by omega) (by omega)]
    rw [ih (by omega) count (by omega), ih (by omega) (xs.length - 1 - count) (by omega),
      ih (by omega) k hk]
    by_cases h1 : k = xs.length - 1 - count
    · rw [if_pos h1, if_neg (by omega), if_pos (by omega), h1]
      congr 1; omega
    · by_cases h2 : k = count
      · rw [if_neg h1, if_pos h2, if_neg (by omega), if_pos (by omega), h2]
      · rw [if_neg h1, if_neg h2]
        by_cases h3 : k < count ∨ xs.length ≤ k + count
        · rw [if_pos h3, if_pos (by omega)]
        · rw [if_neg h3, if_neg (by omega)]

theorem reverse_eq_reverse (xs : List α) : reverse xs = xs.reverse := by
  apply List.ext_getElem?
  intro k
  by_cases hk : k < xs.length
  · rw [reverse, getElem?_swapEnds (by omega) k hk, List.getElem?_reverse hk]
    by_cases h : k < xs.length / 2 ∨ xs.length ≤ k + xs.length / 2
    · rw [if_pos h]
    · rw [if_neg h]; congr 1; omega
  · rw [List.getElem?_eq_none (by simp [reverse]; omega), List.getElem?_eq_none (by simp; omega)]

end Sequence
end RecordQuery
