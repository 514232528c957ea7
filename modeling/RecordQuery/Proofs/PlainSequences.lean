import Mathlib.Data.List.Sort
import RecordQuery.Collection.InPlace
import RecordQuery.Collection.PlainList
import RecordQuery.Proofs.Brackets
import RecordQuery.Proofs.SlicePositions
/-!
The sequence operations of collections against those of plain lists.

Both are defined apart from each other. Here each operation on a sequence of records is shown to come to the
same as the operation on a plain list: the same answer and the same list, or a failure of the same kind
(`Agree`). A slice of a plain list stands for the positions that the slice addresses (`slots_partFor`), in the
same order, and the rest about slices follows from what stands at these positions.
-/

namespace RecordQuery

namespace Collection.Agree

theorem of_eq {r r' : Checked α} (h : r = r') : Agree r r' := h ▸ refl r

theorem bind {r r' : Checked α} {f g : α → Checked β} (h : Agree r r') (next : ∀ a, Agree (f a) (g a)) :
    Agree (r >>= f) (r' >>= g) := by
  cases h with
  | answer a => exact next a
  | failure kind => exact .failure kind

theorem map {r r' : Checked α} (f : α → β) (h : Agree r r') :
    Agree (do return f (← r)) (do return f (← r')) := h.bind fun _ => refl _

end Collection.Agree

namespace PlainList

open Collection (Agree)

/-! ## Indices -/

theorem at?_eq (n : Nat) (index : Int) : at? n index = Sequence.position? n index := by
  unfold Sequence.position?
  cases index with
  | ofNat i =>
    have positive : ¬ Int.ofNat i < 0 := by simp
    rw [at?, if_neg positive]
    by_cases inside : i < n
    · rw [if_pos inside, if_pos (by simpa using inside)]
      rfl
    · rw [if_neg inside, if_neg (by simpa using inside)]
  | negSucc i =>
    rw [at?, if_pos (Int.negSucc_lt_zero i)]
    by_cases inside : i < n
    · rw [if_pos inside, if_pos (by omega)]
      congr 1
      omega
    · rw [if_neg inside, if_neg (by omega)]

/-- What a key that is no slice is in a list of `n` items, for the plain list and for the sequence. -/
inductive Located (n : Nat) (key : Value) : Prop
  | inside {i : Int} {p : Nat} (plain : subscript n key = .ok p) (lt : p < n)
    (native : Sequence.keyOf key = .ok (.index i)) (position : Sequence.position? n i = some p)
  | outside {i : Int} (plain : subscript n key = .error .outOfRange)
    (native : Sequence.keyOf key = .ok (.index i)) (position : Sequence.position? n i = none)
  | unfit {cls : String} (plain : subscript n key = .error .outOfRange)
    (native : Sequence.keyOf key = .error (.indexTooLarge cls))
  | refused {e : Failure} (unindexed : ∀ i, key.index? ≠ some (.ok i)) (plain : subscript n key = .error e)
    (native : Sequence.keyOf key = .error e)

theorem position?_lt {n p : Nat} {i : Int} (h : Sequence.position? n i = some p) : p < n := by
  unfold Sequence.position? at h
  obtain ⟨inside, same⟩ := Option.ite_none_right_eq_some.1 h
  have place := Option.some.inj same
  omega

theorem position?_of_unfit {n : Nat} (fits : (n : Int) ≤ maxPosition) {i : Int}
    (unfit : Value.fitsPosition i = false) : Sequence.position? n i = none := by
  have outside : ¬ (-maxPosition - 1 ≤ i ∧ i ≤ maxPosition) := by
    simpa [Value.fitsPosition] using unfit
  unfold Sequence.position?
  rw [if_neg]
  split <;> omega

theorem keyOf_index {key : Value} (no_slice : ∀ start stop step, key ≠ .slice start stop step) :
    Sequence.keyOf key = match key.index? with
      | some index => do
        let i ← index
        if Value.fitsPosition i then return .index i else .error (.indexTooLarge key.builtinClassName)
      | none => .error (.notAnIndex key.builtinClassName) := by
  unfold Sequence.keyOf
  split
  · exact absurd rfl (no_slice _ _ _)
  · rfl

theorem subscript_of_index {n : Nat} {key : Value} {i : Int} (given : key.index? = some (.ok i)) :
    subscript n key = (Sequence.position? n i).elim (.error .outOfRange) .ok := by
  rw [subscript, given, ← at?_eq]
  simp only [bind, Except.bind]
  cases at? n i <;> rfl

theorem located {n : Nat} (fits : (n : Int) ≤ maxPosition) {key : Value}
    (no_slice : ∀ start stop step, key ≠ .slice start stop step) : Located n key := by
  have native := keyOf_index no_slice
  cases given : key.index? with
  | none =>
    rw [given] at native
    exact .refused (by simp [given]) (by rw [subscript, given]) native
  | some index =>
    rw [given] at native
    cases index with
    | error e => exact .refused (by simp [given]) (by rw [subscript, given]; rfl) native
    | ok i =>
      have plain := subscript_of_index (n := n) given
      replace native : Sequence.keyOf key =
          if Value.fitsPosition i then .ok (.index i) else .error (.indexTooLarge key.builtinClassName) := native
      cases fit : Value.fitsPosition i with
      | false =>
        rw [position?_of_unfit fits fit] at plain
        rw [if_neg (by simp [fit])] at native
        exact .unfit plain native
      | true =>
        rw [if_pos fit] at native
        cases position : Sequence.position? n i with
        | none =>
          rw [position] at plain
          exact .outside plain native position
        | some p =>
          rw [position] at plain
          exact .inside plain (position?_lt position) native position

section
variable {xs : List Value} {key v : Value}

end

/-! ## Slices -/

theorem bound?_eq (v : Value) : bound? v = Slice.boundOf v := by
  cases v <;> rfl

def partFor (s : Slice) (n : Nat) : Part := ⟨s.first n, s.last n, s.step⟩

theorem partOf_eq (s : Slice) (n : Nat) (moves : s.step ≠ 0) :
    partOf n s.start s.stop s.step = partFor s n := by
  unfold partOf partFor
  by_cases forward : 0 < s.step
  · have way : s.backward = false := decide_eq_false (by omega)
    have place (bound : Int) : s.place n bound = clamp n 0 n bound := by
      simp only [Slice.place, clamp, way, Bool.false_eq_true, if_false]
      split <;> omega
    rw [if_pos forward]
    unfold Slice.first Slice.last
    cases s.start <;> cases s.stop <;> simp [way, place]
  · have way : s.backward = true := decide_eq_true (by omega)
    have place (bound : Int) : s.place n bound = clamp n (-1) (n - 1) bound := by
      simp only [Slice.place, clamp, way, if_true]
      split <;> omega
    rw [if_neg forward]
    unfold Slice.first Slice.last
    cases s.start <;> cases s.stop <;> simp [way, place]

theorem part_eq (n : Nat) (start stop step : Value) :
    part n start stop step = (do return partFor (← Slice.ofBounds start stop step) n) := by
  unfold part Slice.ofBounds
  rw [bound?_eq, bound?_eq, bound?_eq]
  cases Slice.boundOf step with
  | error e => rfl
  | ok step =>
    show (if step.getD 1 = 0 then _ else _) = (if step.getD 1 = 0 then _ else _) >>= _
    by_cases zero : step.getD 1 = 0
    · rw [if_pos zero, if_pos zero]
      rfl
    · rw [if_neg zero, if_neg zero]
      cases Slice.boundOf start with
      | error e => rfl
      | ok start =>
        cases Slice.boundOf stop with
        | error e => rfl
        | ok stop => exact congrArg Except.ok (partOf_eq ⟨start, stop, step.getD 1⟩ n zero)

theorem step_ne_zero {start stop step : Value} {s : Slice} (h : Slice.ofBounds start stop step = .ok s) :
    s.step ≠ 0 := by
  obtain ⟨b, _, h⟩ := Checked.bind_eq_ok.1 h
  dsimp only at h
  split at h
  · cases h
  · rename_i moves
    obtain ⟨_, _, h⟩ := Checked.bind_eq_ok.1 h
    obtain ⟨_, _, h⟩ := Checked.bind_eq_ok.1 h
    cases h
    exact moves

/-- A number from the first bound on in steps is one that a whole number of steps leads to. -/
theorem exists_steps {step d : Int} (positive : 0 < step) :
    (∃ k : Nat, d = step * k) ↔ 0 ≤ d ∧ step ∣ d := by
  constructor
  · rintro ⟨k, rfl⟩
    exact ⟨Int.mul_nonneg (Int.le_of_lt positive) (Int.natCast_nonneg k), Int.dvd_mul_right _ _⟩
  · rintro ⟨nonneg, m, rfl⟩
    have steps : 0 ≤ m := Int.nonneg_of_mul_nonneg_right nonneg positive
    exact ⟨m.toNat, by rw [Int.toNat_of_nonneg steps]⟩

section
variable {s : Slice} {n : Nat}

theorem mem_positions_iff_walked {p : Nat} (moves : s.step ≠ 0) : p ∈ s.positions n ↔
    ∃ k : Nat, (p : Int) = s.first n + s.step * k ∧ Before s.step p (s.last n) := by
  rw [List.mem_iff_getElem?]
  refine exists_congr fun k => ?_
  rw [(Slice.selects_positions moves n).walked, Slice.indices_eq]

theorem holds_partFor {p : Nat} (moves : s.step ≠ 0) :
    (partFor s n).holds p = true ↔ p ∈ s.positions n := by
  rw [mem_positions_iff_walked moves]
  unfold Part.holds partFor Before
  dsimp only
  by_cases forward : 0 < s.step
  · have steps := exists_steps (d := p - s.first n) forward
    rw [if_pos forward, if_neg (by omega)]
    constructor
    · intro held
      obtain ⟨ge, lt, divides⟩ := of_decide_eq_true held
      obtain ⟨k, distance⟩ := steps.2 ⟨by omega, divides⟩
      exact ⟨k, by omega, lt⟩
    · rintro ⟨k, step_eq, lt⟩
      obtain ⟨ge, divides⟩ := steps.1 ⟨k, by omega⟩
      exact decide_eq_true ⟨by omega, lt, divides⟩
  · -- downwards, the distance from the first bound is a multiple of the step taken as positive
    have backward : s.step < 0 := by omega
    have positive : 0 < -s.step := by omega
    have steps := exists_steps (d := s.first n - p) positive
    rw [Int.neg_dvd] at steps
    rw [if_neg forward, if_pos backward]
    constructor
    · intro held
      obtain ⟨gt, le, divides⟩ := of_decide_eq_true held
      obtain ⟨k, distance⟩ := steps.2 ⟨by omega, divides⟩
      rw [Int.neg_mul] at distance
      exact ⟨k, by omega, gt⟩
    · rintro ⟨k, step_eq, gt⟩
      have distance : s.first n - p = -s.step * k := by
        rw [Int.neg_mul]
        omega
      obtain ⟨le, divides⟩ := steps.1 ⟨k, distance⟩
      exact decide_eq_true ⟨gt, by omega, divides⟩

theorem mem_positions (moves : s.step ≠ 0) (p : Nat) :
    p ∈ s.positions n ↔ p < n ∧ (partFor s n).holds p = true := by
  rw [holds_partFor moves]
  exact ⟨fun listed => ⟨(Slice.selects_positions moves n).inside p listed, listed⟩, And.right⟩

theorem positions_apart (moves : s.step ≠ 0) {i j p q : Nat} (hp : (s.positions n)[i]? = some p)
    (hq : (s.positions n)[j]? = some q) : (q : Int) - p = s.step * (j - i) := by
  have walked := (Slice.selects_positions moves n).walked
  have at_i := ((walked i p).1 hp).1
  have at_j := ((walked j q).1 hq).1
  rw [Int.mul_sub]
  omega

/-- The positions of a slice of a plain list are those that the slice addresses, in the same order. -/
theorem slots_partFor (moves : s.step ≠ 0) (n : Nat) : (partFor s n).slots n = s.positions n := by
  -- two lists in strict order with the same members are the same list
  unfold Part.slots
  by_cases forward : 0 < s.step
  · have increasing : (s.positions n).Pairwise (· < ·) := by
      refine List.pairwise_iff_getElem.2 fun i j hi hj before => ?_
      have apart := positions_apart moves (List.getElem?_eq_getElem hi) (List.getElem?_eq_getElem hj)
      have further : 0 < s.step * ((j : Int) - i) := Int.mul_pos forward (by omega)
      omega
    rw [if_pos (show 0 < (partFor s n).step from forward)]
    refine (List.pairwise_lt_range.filter _).eq_of_mem_iff increasing fun p => ?_
    rw [List.mem_filter, List.mem_range, mem_positions moves]
  · have decreasing : (s.positions n).Pairwise (· > ·) := by
      refine List.pairwise_iff_getElem.2 fun i j hi hj before => ?_
      have apart := positions_apart moves (List.getElem?_eq_getElem hi) (List.getElem?_eq_getElem hj)
      have further : s.step * ((j : Int) - i) < 0 := Int.mul_neg_of_neg_of_pos (by omega) (by omega)
      omega
    have down : (List.range n).reverse.Pairwise (· > ·) := List.pairwise_reverse.2 List.pairwise_lt_range
    rw [if_neg (show ¬ 0 < (partFor s n).step from forward)]
    refine (down.filter _).eq_of_mem_iff decreasing fun p => ?_
    rw [List.mem_filter, List.mem_reverse, List.mem_range, mem_positions moves]

end

/-! ## Reading, assigning and deleting by slices -/

section
variable {s : Slice} {xs new : List Value}

theorem pick_partFor (moves : s.step ≠ 0) (xs : List Value) :
    pick xs ((partFor s xs.length).slots xs.length) = s.read xs := by
  rw [slots_partFor moves]
  rfl

theorem lookup_zip {positions : List Nat} {new : List α} (distinct : positions.Nodup)
    (count : new.length = positions.length) {k p : Nat} (at_k : positions[k]? = some p) :
    (positions.zip new).lookup p = new[k]? := by
  induction positions generalizing new k with
  | nil => simp at at_k
  | cons q rest ih =>
    obtain ⟨fresh, distinct⟩ := List.nodup_cons.1 distinct
    cases new with
    | nil => cases count
    | cons x items =>
      cases k with
      | zero =>
        obtain rfl : q = p := by simpa using at_k
        simp
      | succ k =>
        have behind : rest[k]? = some p := by simpa using at_k
        have other : p ≠ q := fun same => fresh (same ▸ List.mem_of_getElem? behind)
        have others := ih distinct (by simpa using count) behind
        have differ : (p == q) = false := beq_eq_false_iff_ne.2 other
        rw [List.zip_cons_cons, List.lookup_cons, differ, others]
        simp

theorem putAt_mapIdx {positions : List Nat} (distinct : positions.Nodup)
    (inside : ∀ p ∈ positions, p < xs.length) (count : new.length = positions.length) :
    PutAt xs positions new (xs.mapIdx fun i x => ((positions.zip new).lookup i).getD x) := by
  refine ⟨List.length_mapIdx, ?holds, fun i other => ?others⟩
  case holds =>
    -- positions and new items end together, and as distinct positions are looked up each gives its own item
    apply List.ext_getElem?
    intro k
    rw [List.getElem?_map, List.getElem?_map]
    cases at_k : positions[k]? with
    | none =>
      have beyond : new[k]? = none := by
        rw [List.getElem?_eq_none_iff] at at_k ⊢
        omega
      rw [beyond]
      rfl
    | some p =>
      have lt : p < xs.length := inside p (List.mem_of_getElem? at_k)
      have there : k < new.length := by
        have bound := (List.getElem?_eq_some_iff.1 at_k).1
        omega
      have found := lookup_zip distinct count at_k
      rw [List.getElem?_eq_getElem there] at found
      simp [List.getElem?_mapIdx, found, lt, there]
  case others =>
    have unlisted : (positions.zip new).lookup i = none := by
      rw [List.lookup_eq_none_iff]
      intro entry listed
      have differ : i ≠ entry.1 := by
        rintro rfl
        exact other (List.of_mem_zip listed).1
      simpa using differ
    simp [List.getElem?_mapIdx, unlisted]

theorem assign_eq (moves : s.step ≠ 0) (xs new : List Value) :
    assign xs (partFor s xs.length) new = s.write xs new := by
  have step : (partFor s xs.length).step = s.step := rfl
  have selects := Slice.selects_positions moves xs.length
  rw [assign, Slice.write, step, slots_partFor moves]
  by_cases one : s.step = 1
  · rw [if_pos one, if_pos one, Slice.splice]
    have high : (max (s.first xs.length) (s.last xs.length)).toNat =
        max (s.first xs.length).toNat (s.last xs.length).toNat := by omega
    show Except.ok (_ ++ _ ++ xs.drop (max (s.first xs.length) (s.last xs.length)).toNat) = _
    rw [high]
    rfl
  · rw [if_neg one, if_neg one]
    dsimp only
    by_cases count : new.length = (s.positions xs.length).length
    · -- both put the items at the positions of the slice, which says all about a list
      have set := Slice.putAt_setAll selects.distinct selects.inside count
      have mapped := putAt_mapIdx selects.distinct selects.inside count
      rw [if_pos count, if_pos count, mapped.unique set]
    · rw [if_neg count, if_neg count]

end

/-! ## Keys -/

section
variable {xs : List Value} {key v : Value}

theorem set_slice (xs : List Value) (start stop step v : Value) :
    Sequence.set xs (.slice start stop step) v =
      (do let s ← Slice.ofBounds start stop step; s.write xs (← Sequence.assigned s v)) := by
  show ((Sequence.Key.slice <$> Slice.ofBounds start stop step) >>= _) = _
  cases Slice.ofBounds start stop step <;> rfl

theorem setSlice_value (xs : List Value) (start stop step v : Value) :
    setSlice xs start stop step (.value v) = Sequence.set xs (.slice start stop step) v := by
  rw [setSlice, part_eq, set_slice]
  cases bounds : Slice.ofBounds start stop step with
  | error e => rfl
  | ok s =>
    show newItems xs (partFor s xs.length) (.value v) >>= _ = Sequence.assigned s v >>= _
    have new : newItems xs (partFor s xs.length) (.value v) = Sequence.assigned s v := by
      rw [newItems, Sequence.assigned]
      cases v.items <;> rfl
    rw [new]
    cases Sequence.assigned s v with
    | error e => rfl
    | ok items => exact assign_eq (step_ne_zero bounds) xs items

theorem setSlice_itself {v : Value} (own : v.items = .ok xs) (start stop step : Value) :
    setSlice xs start stop step .itself = Sequence.set xs (.slice start stop step) v := by
  rw [← setSlice_value, setSlice, setSlice]
  have same (p : Part) : newItems xs p .itself = newItems xs p (.value v) := by
    rw [newItems, newItems, own]
  simp only [same]

theorem setSlice_failing (xs : List Value) (start stop step : Value) (given : List Value) (fault : Raised) :
    setSlice xs start stop step (.failing given fault) =
      (do let _ ← Slice.ofBounds start stop step; .error fault.failure) := by
  rw [setSlice, part_eq]
  cases Slice.ofBounds start stop step <;> rfl

/-- What is done at the position of an index agrees, if it is the same inside of the list and the sequence fails
for the index outside. -/
theorem Located.agree {n : Nat} (h : Located n key) {f : Nat → α} {g : Int → Checked α}
    {sliced : Slice → Checked α} (inside : ∀ i p, Sequence.position? n i = some p → g i = .ok (f p))
    (outside : ∀ i, Sequence.position? n i = none → g i = .error .assignOutOfRange) :
    Agree (do return f (← subscript n key))
      (do match ← Sequence.keyOf key with | .index i => g i | .slice s => sliced s) := by
  cases h with
  | inside position lt given at_i =>
    rw [position, given]
    exact .of_eq (inside _ _ at_i).symm
  | outside position given nowhere =>
    rw [position, given]
    show Agree _ (g _)
    rw [outside _ nowhere]
    exact .failure rfl
  | unfit position given =>
    rw [position, given]
    exact .failure rfl
  | refused _ position given =>
    rw [position, given]
    exact .failure rfl

theorem readAt_cases (fits : (xs.length : Int) ≤ maxPosition) (integer : key.IsInteger) :
    (∃ x, readAt xs key = .ok x ∧ Sequence.get xs key = .ok (.item x)) ∨
      ∃ e e', readAt xs key = .error e ∧ e.kind = .index ∧ Sequence.get xs key = .error e' ∧
        e'.kind = .index := by
  have no_slice : ∀ start stop step, key ≠ .slice start stop step := by
    rintro start stop step rfl
    cases integer
  unfold readAt Sequence.get
  cases located fits no_slice with
  | @inside i p position lt given at_i =>
    have there : xs[p]? = some xs[p] := List.getElem?_eq_getElem lt
    rw [position, given]
    refine .inl ⟨xs[p], ?_, ?_⟩
    · simp only [bind, Except.bind, there]
      rfl
    · show Sequence.select xs (.index i) = _
      rw [Sequence.select, at_i, Option.bind_some, there]
  | @outside i position given nowhere =>
    rw [position, given]
    refine .inr ⟨_, .outOfRange, rfl, rfl, ?_, rfl⟩
    show Sequence.select xs (.index i) = _
    rw [Sequence.select, nowhere]
    rfl
  | unfit position given =>
    rw [position, given]
    exact .inr ⟨_, _, rfl, rfl, rfl, rfl⟩
  | refused unindexed _ _ =>
    cases integer with
    | int n => exact absurd rfl (unindexed n)
    | bool b => exact absurd rfl (unindexed b.toNat)

end

/-! ## Items by value -/

section
variable {v : Value}

theorem findFrom_eq (v : Value) (position : Nat) (xs : List Value) :
    Sequence.findFrom v position xs = (do return (← find v xs).map (position + ·)) := by
  induction xs generalizing position with
  | nil => rfl
  | cons x xs ih =>
    rw [Sequence.findFrom, find]
    cases x.sameItem v with
    | error e => rfl
    | ok same =>
      cases same with
      | true => rfl
      | false =>
        show Sequence.findFrom v (position + 1) xs = (do return (← (do return (← find v xs).map _)).map _)
        rw [ih]
        cases find v xs with
        | error e => rfl
        | ok found =>
          cases found with
          | none => rfl
          | some i =>
            show Except.ok (some (position + 1 + i)) = Except.ok (some (position + (i + 1)))
            congr 2
            omega

theorem find_lt {xs : List Value} {i : Nat} (h : find v xs = .ok (some i)) : i < xs.length := by
  have found : Sequence.findFrom v 0 xs = .ok (some i) := by
    rw [findFrom_eq, h]
    show Except.ok (some (0 + i)) = _
    rw [Nat.zero_add]
  have lt := Sequence.findFrom_lt found
  omega

theorem agree_remove {xs : List Value} (printable : find v xs = .ok none → ∀ fault, v.repr ≠ .error fault) :
    Agree (remove xs v) (Sequence.remove xs v) := by
  rw [remove, Sequence.remove, Sequence.indexOf_eq, findFrom_eq]
  cases found : find v xs with
  | error e => exact .failure rfl
  | ok o =>
    cases o with
    | some i =>
      have lt := find_lt found
      refine .of_eq ?_
      show Except.ok _ = Sequence.deleteAt xs ((0 + i : Nat) : Int)
      rw [Nat.zero_add, Sequence.deleteAt, Sequence.position?_natCast lt]
    | none =>
      show Agree (.error _) (Sequence.notFound v >>= _)
      rw [Sequence.notFound]
      cases printed : v.repr with
      | ok text => exact .failure rfl
      | error fault => exact absurd printed (printable found fault)

theorem remove_unprintable {xs : List Value} {fault : Raised} (absent : find v xs = .ok none)
    (unprintable : v.repr = .error fault) :
    remove xs v = .error (.raised .value "list.remove(x): x not in list") ∧
      Sequence.remove xs v = .error fault.failure := by
  rw [remove, Sequence.remove, Sequence.indexOf_eq, findFrom_eq, absent]
  refine ⟨rfl, ?_⟩
  show Sequence.notFound v >>= _ = _
  rw [Sequence.notFound, unprintable]
  rfl

end
end PlainList
end RecordQuery
