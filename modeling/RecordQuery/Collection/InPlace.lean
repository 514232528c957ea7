import RecordQuery.Collection.ListOperation
import RecordQuery.Collection.Operation
/-!
The operations of mutable sequences that are loops over the methods of a collection.

A program over a collection asks for operations one after the other, each on what the one before left; a
failure ends it, and the collection stays as it is then. Appending, extending, removing, clearing, reversing
and reading from the end are such programs: they insert, delete, read and assign as everyone does, the reads
through the brackets that also look records up. What they come to is shown beside them for collections with
no more records than there are positions.
-/

namespace RecordQuery

/-- A program over a collection: what it comes to, and the collection after it, also when it fails. -/
def InPlace (α : Type) : Type := Collection → Checked α × Collection

namespace InPlace

def pure (a : α) : InPlace α := fun c => (.ok a, c)

/-- A program that has an answer to go on with, followed by the next one. -/
def bind (p : InPlace α) (f : α → InPlace β) : InPlace β := fun c =>
  match p c with
  | (.ok a, after) => f a after
  | (.error e, after) => (.error e, after)

instance : Monad InPlace where
  pure := pure
  bind := bind

/-- The same program with its failure handled, on the collection as it is when it fails. -/
def handle (p : InPlace α) (f : Failure → InPlace α) : InPlace α := fun c =>
  match p c with
  | (.ok a, after) => (.ok a, after)
  | (.error e, after) => f e after

def fail (e : Failure) : InPlace α := fun c => (.error e, c)

def size : InPlace Nat := fun c => (.ok c.records.length, c)

section
variable [Answers]

def ask (operation : Operation) : InPlace Value := fun c =>
  ((operation.perform c).1.outcome, (operation.perform c).2)

def append (v : Value) : InPlace Value := do
  let n ← size
  ask (.edit (.insert (.int n) v))

/-- Appends values one by one, and then fails if going through them does. -/
def appendEach (failure : Option Failure) : List Value → InPlace Value
  | [] =>
    match failure with
    | some e => fail e
    | none => pure .none
  | v :: rest => do
    let _ ← append v
    appendEach failure rest

/-- Appends what something gives as it comes. Of the collection itself a snapshot is gone through. -/
def extend (given : Items) : InPlace Value := fun c =>
  appendEach (given.walk c.records).failure (given.walk c.records).items c

/-- The first `turns` turns of appending what the list of the records itself gives, from a position on, and
whether there are more: each reads the list as the turns before left it. -/
def appendOwn : (turns : Nat) → (position : Nat) → InPlace Bool
  | 0, position => fun c => (.ok (position < c.records.length), c)
  | turns + 1, position => fun c =>
    match c.records[position]? with
    | some r => (append r >>= fun _ => appendOwn turns (position + 1)) c
    | none => (.ok false, c)

/-- Assigns to a slice what something gives. What fails on the way is not assigned at all. -/
def setSlice (start stop step : Value) : Items → InPlace Value
  | .value v => ask (.edit (.set (.slice start stop step) v))
  | .itself => fun c => ask (.edit (.set (.slice start stop step) c.toValue)) c
  | .failing _ fault => fun c => (do let _ ← Slice.ofBounds start stop step; .error fault.failure, c)

def remove (v : Value) : InPlace Value := do
  let i ← ask (.index v (.int 0) .none)
  ask (.edit (.delete i))

/-- Takes the last record out `count` times. -/
def popTimes : (count : Nat) → InPlace Value
  | 0 => pure .none
  | count + 1 => do
    let _ ← ask (.edit (.pop none))
    popTimes count

/-- Takes the last record out until there is none: that it cannot be taken out ends the loop. -/
def clear : InPlace Value := do
  let n ← size
  -- one time more than there are records, so it is always the failure that ends the loop
  (popTimes (n + 1)).handle fun e => if e.kind = .index then pure .none else fail e

/-- Exchanges the records at two positions: both are read, then both are assigned. -/
def exchange (i j : Nat) : InPlace Value := do
  let a ← ask (.item (.int j))
  let b ← ask (.item (.int i))
  let _ ← ask (.edit (.set (.int i) a))
  ask (.edit (.set (.int j) b))

/-- Exchanges the first `count` of `n` records with the last ones, from the outside in. -/
def exchangeEnds (n : Nat) : (count : Nat) → InPlace Value
  | 0 => pure .none
  | count + 1 => do
    let _ ← exchangeEnds n count
    exchange count (n - 1 - count)

def reverse : InPlace Value := do
  let n ← size
  exchangeEnds n (n / 2)

/-- The records at the first `n` positions, read from the last of these positions down. -/
def itemsDown : (n : Nat) → InPlace (List Value)
  | 0 => pure []
  | n + 1 => do
    let r ← ask (.item (.int n))
    let rest ← itemsDown n
    return r :: rest

def reversed : InPlace Value := do
  let n ← size
  let items ← itemsDown n
  return .list items

end

end InPlace

section
variable [Answers]

def ListOperation.inPlace : ListOperation → InPlace Value
  | append v => InPlace.append v
  | insert place v => .ask (.edit (.insert place v))
  | extend given | addAssign given => InPlace.extend given
  | remove v => InPlace.remove v
  | pop place => .ask (.edit (.pop place))
  | clear => InPlace.clear
  | reverse => InPlace.reverse
  | set key v => .ask (.edit (.set key v))
  | setSlice start stop step given => InPlace.setSlice start stop step given
  | delete key => .ask (.edit (.delete key))
  | readAt place _ => .ask (.item place)
  | readSlice start stop step _ => .ask (.item (.slice start stop step))
  | length => .ask .length
  | contains v => .ask (.contains v)
  | index v start stop _ => .ask (.index v start stop)
  | count v => .ask (.count v)
  | items => .ask .items
  | itemsReversed => InPlace.reversed

end

namespace InPlace

/-! ## Programs step by step -/

section
variable {p : InPlace α} {f : α → InPlace β} {c after : Collection}

theorem bind_of_ok {a : α} (h : p c = (.ok a, after)) : (p >>= f) c = f a after := by
  show bind p f c = _
  rw [bind, h]

theorem bind_of_error {e : Failure} (h : p c = (.error e, after)) : (p >>= f) c = (.error e, after) := by
  show bind p f c = _
  rw [bind, h]

theorem handle_of_error {g : Failure → InPlace α} {e : Failure} (h : p c = (.error e, after)) :
    p.handle g c = g e after := by
  unfold handle
  rw [h]

end

end InPlace

/-! ## Primitives at positions -/

namespace Sequence

theorem fitsPosition_natCast {n : Nat} (h : (n : Int) ≤ maxPosition) : Value.fitsPosition n = true := by
  have positive : (0 : Int) ≤ maxPosition := by decide
  unfold Value.fitsPosition
  rw [Bool.and_eq_true, decide_eq_true_eq, decide_eq_true_eq]
  omega

theorem keyOf_natCast {n : Nat} (h : (n : Int) ≤ maxPosition) : keyOf (.int n) = .ok (.index n) := by
  show (if Value.fitsPosition n then _ else _) = _
  rw [if_pos (fitsPosition_natCast h)]
  rfl

theorem positionOf_natCast {n : Nat} (h : (n : Int) ≤ maxPosition) : positionOf (.int n) = .ok (n : Int) := by
  show (if Value.fitsPosition n then _ else _) = _
  rw [if_pos (fitsPosition_natCast h)]
  rfl

theorem position?_natCast {n i : Nat} (h : i < n) : position? n (i : Int) = some i := by
  have nonneg : ¬ (i : Int) < 0 := by omega
  rw [position?, if_neg nonneg]
  simp [h]

theorem findFrom_lt {xs : List Value} {v : Value} {position found : Nat}
    (h : findFrom v position xs = .ok (some found)) : found < position + xs.length := by
  induction xs generalizing position with
  | nil => cases h
  | cons x xs ih =>
    rw [findFrom] at h
    cases same : x.sameItem v with
    | error e =>
      rw [same] at h
      cases h
    | ok b =>
      rw [same] at h
      cases b with
      | true =>
        cases h
        simp
      | false =>
        have lt := ih h
        rw [List.length_cons]
        omega

theorem notFound_ne_ok {v : Value} {a : α} : notFound v ≠ .ok a := by
  unfold notFound
  cases v.repr <;> nofun

theorem indexOf_eq (xs : List Value) (v : Value) :
    indexOf xs v (.int 0) .none = findFrom v 0 xs >>= fun found =>
      match found with
      | some i => .ok i
      | none => notFound v := by
  have low : searchBound xs.length (.int 0) = .ok 0 := rfl
  rw [indexOf, low]
  show (findFrom v 0 ((xs.take xs.length).drop 0) >>= _) = _
  rw [List.take_length, List.drop_zero]
  rfl

theorem indexOf_lt {xs : List Value} {v : Value} {i : Nat}
    (h : indexOf xs v (.int 0) .none = .ok i) : i < xs.length := by
  rw [indexOf_eq] at h
  cases found : findFrom v 0 xs with
  | error e =>
    rw [found] at h
    cases h
  | ok o =>
    rw [found] at h
    cases o with
    | none => exact absurd h notFound_ne_ok
    | some j =>
      cases h
      have lt := findFrom_lt found
      omega

end Sequence

/-! ## Operations at positions -/

namespace InPlace

def Fits (c : Collection) : Prop := (c.records.length : Int) ≤ maxPosition

section
variable [Answers] {c : Collection} {i : Nat} {v r : Value}

theorem ask_edit_of_ok {e : Edit} {answer : Value} {records : List Value}
    (h : e.apply c.records = .ok (answer, records)) :
    ask (.edit e) c = (.ok answer, c.withRecords records) := by
  show ((c.edit e).1, (c.edit e).2) = _
  rw [Collection.edit, h]

theorem ask_edit_of_error {e : Edit} {failure : Failure} (h : e.apply c.records = .error failure) :
    ask (.edit e) c = (.error failure, c) := by
  show ((c.edit e).1, (c.edit e).2) = _
  rw [Collection.edit, h]

theorem ask_index (c : Collection) (v : Value) : ask (.index v (.int 0) .none) c =
    (do return .int (← Sequence.indexOf c.records v (.int 0) .none), c) := rfl

theorem ask_item (fits : Fits c) (hr : c.records[i]? = some r) :
    ask (.item (.int i)) c = (.ok r, c) := by
  have lt : i < c.records.length := (List.getElem?_eq_some_iff.1 hr).1
  have small : (i : Int) ≤ maxPosition := by
    unfold Fits at fits
    omega
  have read : Sequence.get c.records (.int i) = .ok (.item r) := by
    rw [Sequence.get, Sequence.keyOf_natCast small]
    show Sequence.select c.records (.index i) = _
    rw [Sequence.select, Sequence.position?_natCast lt]
    simp [hr]
  show ((c.getItem (.int i)).outcome, c) = _
  simp only [Collection.getItem, read]
  rfl

theorem ask_set (fits : Fits c) (lt : i < c.records.length) :
    ask (.edit (.set (.int i) v)) c = (.ok .none, c.withRecords (c.records.set i v)) := by
  have small : (i : Int) ≤ maxPosition := by
    unfold Fits at fits
    omega
  apply ask_edit_of_ok
  have set : Sequence.set c.records (.int i) v = .ok (c.records.set i v) := by
    rw [Sequence.set, Sequence.keyOf_natCast small]
    show Sequence.setAt c.records i v = _
    rw [Sequence.setAt, Sequence.position?_natCast lt]
  rw [Edit.apply, set]
  rfl

/-! ## What the loops come to -/

theorem append_eq (fits : Fits c) (v : Value) :
    append v c = (.ok .none, c.withRecords (c.records ++ [v])) := by
  have inserted : Sequence.insert c.records (.int c.records.length) v = .ok (c.records ++ [v]) := by
    rw [Sequence.insert, Sequence.positionOf_natCast fits, ← Sequence.append_eq_concat]
    rfl
  refine (bind_of_ok rfl).trans (ask_edit_of_ok ?_)
  rw [Edit.apply, inserted]
  rfl

/-- Appending one by one leaves everything that was given behind the records, whether it ends in a failure
or not. -/
theorem appendEach_eq (failure : Option Failure) (items : List Value)
    (fits : Fits (c.withRecords (c.records ++ items))) :
    appendEach failure items c =
      ((failure.map .error).getD (.ok .none), c.withRecords (c.records ++ items)) := by
  induction items generalizing c with
  | nil =>
    rw [List.append_nil]
    cases failure <;> rfl
  | cons v rest ih =>
    have length : (c.records ++ v :: rest).length = c.records.length + rest.length + 1 := by
      rw [List.length_append, List.length_cons]
      omega
    -- there is room for all of it, so there is room before each
    have before : Fits c := by
      unfold Fits at fits ⊢
      have bound : ((c.records ++ v :: rest).length : Int) ≤ maxPosition := fits
      omega
    have assoc : c.records ++ [v] ++ rest = c.records ++ v :: rest := by simp
    calc appendEach failure (v :: rest) c
        = appendEach failure rest (c.withRecords (c.records ++ [v])) := bind_of_ok (append_eq before v)
      _ = ((failure.map .error).getD (.ok .none), c.withRecords (c.records ++ [v] ++ rest)) := by
          refine ih ?_
          show Fits (c.withRecords (c.records ++ [v] ++ rest))
          rw [assoc]
          exact fits
      _ = ((failure.map .error).getD (.ok .none), c.withRecords (c.records ++ v :: rest)) := by rw [assoc]

/-- Appending what the list of the records itself gives comes to no end: each turn leaves as many records
ahead as there were. -/
theorem appendOwn_endless {turns position : Nat} (ahead : position < c.records.length)
    (fits : (c.records.length + turns : Nat) ≤ maxPosition) :
    ∃ more, more.length = turns ∧
      appendOwn turns position c = (.ok true, c.withRecords (c.records ++ more)) := by
  induction turns generalizing c position with
  | zero =>
    refine ⟨[], rfl, ?_⟩
    rw [List.append_nil]
    simp only [appendOwn, ahead, decide_true]
    rfl
  | succ turns ih =>
    -- the record that is appended is ahead again in the next turn
    have here : c.records[position]? = some c.records[position] := List.getElem?_eq_getElem ahead
    have before : Fits c := by
      unfold Fits
      omega
    let longer := c.withRecords (c.records ++ [c.records[position]])
    have length : longer.records.length = c.records.length + 1 := List.length_append
    have still_ahead : position + 1 < longer.records.length := by omega
    obtain ⟨more, count, run⟩ := ih still_ahead (by omega)
    refine ⟨c.records[position] :: more, by rw [List.length_cons, count], ?_⟩
    simp only [appendOwn, here]
    refine (bind_of_ok (append_eq before _)).trans (run.trans ?_)
    show (_, c.withRecords (c.records ++ [c.records[position]] ++ more)) = _
    rw [List.append_assoc]
    rfl

theorem remove_eq (fits : Fits c) (v : Value) : remove v c = ask (.edit (.remove v)) c := by
  cases found : Sequence.indexOf c.records v (.int 0) .none with
  | error e =>
    have asked : ask (.index v (.int 0) .none) c = (.error e, c) := by
      rw [ask_index, found]
      rfl
    rw [ask_edit_of_error (e := .remove v) (by rw [Edit.apply, Sequence.remove, found]; rfl)]
    exact bind_of_error asked
  | ok i =>
    have asked : ask (.index v (.int 0) .none) c = (.ok (.int i), c) := by
      rw [ask_index, found]
      rfl
    have small : (i : Int) ≤ maxPosition := by
      have lt := Sequence.indexOf_lt found
      unfold Fits at fits
      omega
    have same : (Edit.delete (.int i)).apply c.records = (Edit.remove v).apply c.records := by
      rw [Edit.apply, Edit.apply, Sequence.remove, found, Sequence.delete, Sequence.keyOf_natCast small]
      rfl
    refine (bind_of_ok asked).trans ?_
    show ((c.edit _).1, (c.edit _).2) = ((c.edit _).1, (c.edit _).2)
    rw [Collection.edit, Collection.edit, same]

theorem popTimes_eq {count : Nat} (enough : c.records.length < count) :
    popTimes count c = (.error .popFromEmpty, c.withRecords []) := by
  -- each time leaves one record less and one time less, so the times stay more than the records
  induction count generalizing c with
  | zero => omega
  | succ count ih =>
    rcases c.records.eq_nil_or_concat with empty | ⟨rest, last, concat⟩
    · have popped : ask (.edit (.pop none)) c = (.error .popFromEmpty, c) := by
        apply ask_edit_of_error
        rw [empty]
        rfl
      have same : c = c.withRecords [] := by rw [← empty]; rfl
      exact (bind_of_error popped).trans (Prod.ext rfl same)
    · rw [List.concat_eq_append] at concat
      have popped : ask (.edit (.pop none)) c = (.ok last, c.withRecords rest) := by
        apply ask_edit_of_ok
        rw [concat]
        exact Sequence.popAt_last rest last
      have fewer : rest.length < count := by
        rw [concat, List.length_append] at enough
        simpa using enough
      exact (bind_of_ok popped).trans (ih (c := c.withRecords rest) fewer)

theorem clear_eq (c : Collection) : clear c = (.ok .none, c.withRecords []) := by
  have popped := popTimes_eq (c := c) (Nat.lt_succ_self _)
  exact (bind_of_ok rfl).trans (handle_of_error popped)

theorem exchange_eq {j : Nat} (fits : Fits c) (hi : i < c.records.length) (hj : j < c.records.length) :
    exchange i j c = (.ok .none, c.withRecords (Sequence.swap c.records i j)) := by
  have at_i : c.records[i]? = some c.records[i] := List.getElem?_eq_getElem hi
  have at_j : c.records[j]? = some c.records[j] := List.getElem?_eq_getElem hj
  have swapped : Sequence.swap c.records i j = (c.records.set i c.records[j]).set j c.records[i] := by
    rw [Sequence.swap, at_i, at_j]
  have first := ask_set (v := c.records[j]) fits hi
  have fits' : Fits (c.withRecords (c.records.set i c.records[j])) := by
    show ((c.records.set i c.records[j]).length : Int) ≤ maxPosition
    rw [List.length_set]
    exact fits
  have second := ask_set (i := j) (v := c.records[i]) fits' (by simpa [Collection.withRecords] using hj)
  rw [swapped]
  exact (bind_of_ok (ask_item fits at_j)).trans <| (bind_of_ok (ask_item fits at_i)).trans <|
    (bind_of_ok first).trans second

theorem exchangeEnds_eq (fits : Fits c) {count : Nat} (half : 2 * count ≤ c.records.length) :
    exchangeEnds c.records.length count c =
      (.ok .none, c.withRecords (Sequence.swapEnds c.records count)) := by
  induction count with
  | zero => rfl
  | succ count ih =>
    let between := c.withRecords (Sequence.swapEnds c.records count)
    have length : between.records.length = c.records.length := Sequence.length_swapEnds _ _
    have fits' : Fits between := by
      unfold Fits
      rw [length]
      exact fits
    refine (bind_of_ok (ih (by omega))).trans ?_
    -- what is exchanged so far is as long as before, so the next two positions are there
    exact exchange_eq (c := between) fits' (by rw [length]; omega) (by rw [length]; omega)

theorem reverse_eq (fits : Fits c) : reverse c = (.ok .none, c.withRecords c.records.reverse) := by
  refine (bind_of_ok rfl).trans ((exchangeEnds_eq fits (by omega)).trans ?_)
  rw [← Sequence.reverse_eq_reverse]
  rfl

end
end InPlace
end RecordQuery
