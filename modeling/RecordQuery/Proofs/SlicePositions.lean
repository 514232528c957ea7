import RecordQuery.Collection.Slice
/-!
The positions of a list that a slice addresses, and what is read, written and deleted at them.

The positions are the numbers of a range between two bounds of the list (`Selects`, `selects_positions`): from
the first bound on in steps, as long as the last one is not reached. A slice of step one is read, written and
deleted as one part of the list, any other one position by position; both leave the same. What is read stands
at the positions (`holdsAt_read`), what is written stands there afterwards and nowhere else (`write_eq_ok`),
and what is left after deleting stands at all other positions (`holdsAt_delete`).
-/

namespace RecordQuery

/-! ## Ranges -/

/-- Whether a number is not yet at the end of a walk by `step`. -/
def Before (step p stop : Int) : Prop := if step < 0 then stop < p else p < stop

theorem lt_quotient {k : Nat} {m d : Int} (positive : 0 < d) :
    k < ((m + d - 1).fdiv d).toNat ↔ d * k < m := by
  have multiple : ((k : Int) + 1) * d = d * k + d := by rw [Int.add_mul, Int.mul_comm, Int.one_mul]
  calc k < ((m + d - 1).fdiv d).toNat
      ↔ (k : Int) + 1 ≤ (m + d - 1) / d := by
        rw [Int.fdiv_eq_ediv_of_nonneg _ (Int.le_of_lt positive), Int.lt_toNat]; rfl
    _ ↔ d * k + d ≤ m + d - 1 := by rw [Int.le_ediv_iff_mul_le positive, multiple]
    _ ↔ d * k < m := by omega

theorem lt_rangeLength {start stop step : Int} {k : Nat} (moves : step ≠ 0) :
    k < rangeLength start stop step ↔ Before step (start + step * k) stop := by
  by_cases forward : 0 < step
  · have not_backward : ¬ step < 0 := by omega
    rw [rangeLength, if_pos forward, lt_quotient forward, Before, if_neg not_backward]
    omega
  · have backward : step < 0 := by omega
    have turned : start - stop - step - 1 = start - stop + -step - 1 := by omega
    rw [rangeLength, if_neg forward, if_pos backward, turned, lt_quotient (by omega), Before,
      if_pos backward, Int.neg_mul]
    omega

theorem getElem?_rangeItems {start stop step p : Int} {k : Nat} (moves : step ≠ 0) :
    (rangeItems start stop step)[k]? = some p ↔ p = start + step * k ∧ Before step p stop := by
  rw [rangeItems, List.getElem?_map, Option.map_eq_some_iff]
  constructor
  · rintro ⟨i, found, rfl⟩
    obtain ⟨lt, same⟩ := List.getElem?_eq_some_iff.1 found
    rw [List.length_range] at lt
    rw [List.getElem_range] at same
    rw [← same]
    exact ⟨rfl, (lt_rangeLength moves).1 lt⟩
  · rintro ⟨rfl, before⟩
    have lt := (lt_rangeLength moves).2 before
    exact ⟨k, List.getElem?_range lt, rfl⟩

theorem nodup_rangeItems {start stop step : Int} (moves : step ≠ 0) :
    (rangeItems start stop step).Nodup := by
  refine List.Pairwise.map _ ?_ List.nodup_range
  intro i j differ same
  have equal : step * i = step * j := by omega
  exact differ (Int.ofNat_inj.1 (Int.eq_of_mul_eq_mul_left moves equal))

/-! ## Items at positions -/

/-- The items of a list at positions, in the order of the positions. -/
def HoldsAt (xs : List α) (positions : List Nat) (items : List α) : Prop :=
  positions.map (xs[·]?) = items.map some

/-- The positions of a list of `n` items that are not among the given ones, in increasing order. -/
def otherPositions (n : Nat) (positions : List Nat) : List Nat := (List.range n).filter (· ∉ positions)

/-- A list with items put at positions and nothing else changed. -/
structure PutAt (xs : List α) (positions : List Nat) (items ys : List α) : Prop where
  length_eq : ys.length = xs.length
  holds : HoldsAt ys positions items
  others : ∀ i, i ∉ positions → ys[i]? = xs[i]?

section
variable {xs ys items new : List α} {positions : List Nat} {low high : Nat}

theorem HoldsAt.length_eq (h : HoldsAt xs positions items) : items.length = positions.length := by
  simpa using (congrArg List.length h).symm

theorem HoldsAt.unique {others : List α} (h : HoldsAt xs positions items)
    (h' : HoldsAt xs positions others) : items = others :=
  (List.map_inj_right fun _ _ => Option.some.inj).1 (h.symm.trans h')

theorem HoldsAt.append {positions' : List Nat} {items' : List α} (h : HoldsAt xs positions items)
    (h' : HoldsAt xs positions' items') : HoldsAt xs (positions ++ positions') (items ++ items') := by
  rw [HoldsAt, List.map_append, List.map_append, h, h']

theorem holdsAt_part (xs : List α) (low length : Nat) (fits : low + length ≤ xs.length) :
    HoldsAt xs (List.range' low length) ((xs.drop low).take length) := by
  apply List.ext_getElem?
  intro k
  rw [List.getElem?_map, List.getElem?_map, List.getElem?_take, List.getElem?_drop]
  by_cases lt : k < length
  · have there : low + k < xs.length := by omega
    rw [List.getElem?_range' lt, if_pos lt, List.getElem?_eq_getElem there]
    simp [there]
  · rw [if_neg lt, List.getElem?_eq_none (by simpa using lt)]
    rfl

theorem PutAt.unique {zs : List α} (put : PutAt xs positions items ys) (put' : PutAt xs positions items zs) :
    ys = zs := by
  apply List.ext_getElem?
  intro i
  by_cases addressed : i ∈ positions
  · have same : positions.map (ys[·]?) = positions.map (zs[·]?) := put.holds.trans put'.holds.symm
    exact List.map_inj_left.1 same i addressed
  · exact (put.others i addressed).trans (put'.others i addressed).symm

theorem PutAt.eq_self (put : PutAt xs positions items ys) (h : HoldsAt xs positions items) : ys = xs :=
  put.unique ⟨rfl, h, fun _ _ => rfl⟩

/-! ## Position by position -/

namespace Slice

theorem holdsAt_filterMap (inside : ∀ p ∈ positions, p < xs.length) :
    HoldsAt xs positions (positions.filterMap (xs[·]?)) := by
  induction positions with
  | nil => rfl
  | cons p rest ih =>
    have lt : p < xs.length := inside p List.mem_cons_self
    have there : xs[p]? = some xs[p] := List.getElem?_eq_getElem lt
    have behind := ih fun q listed => inside q (List.mem_cons_of_mem p listed)
    rw [List.filterMap_cons_some there, HoldsAt, List.map_cons, List.map_cons, there, behind]

@[simp] theorem length_setAll (entries : List (Nat × α)) (xs : List α) :
    (setAll entries xs).length = xs.length := by
  induction entries generalizing xs with
  | nil => rfl
  | cons e rest ih => rw [setAll, ih, List.length_set]

theorem getElem?_setAll_of_not_mem {entries : List (Nat × α)} {i : Nat}
    (other : i ∉ entries.map (·.1)) : (setAll entries xs)[i]? = xs[i]? := by
  induction entries generalizing xs with
  | nil => rfl
  | cons e rest ih =>
    obtain ⟨ne, behind⟩ : i ≠ e.1 ∧ i ∉ rest.map (·.1) := by simpa using other
    rw [setAll, ih behind, List.getElem?_set_ne ne.symm]

/-- Items set at positions one after the other stand there in the end, as no position comes twice. -/
theorem holdsAt_setAll (distinct : positions.Nodup) (inside : ∀ p ∈ positions, p < xs.length)
    (count : new.length = positions.length) :
    HoldsAt (setAll (positions.zip new) xs) positions new := by
  induction positions generalizing new xs with
  | nil =>
    obtain rfl : new = [] := List.eq_nil_of_length_eq_zero count
    rfl
  | cons p rest ih =>
    cases new with
    | nil => cases count
    | cons x items =>
      obtain ⟨fresh, distinct⟩ := List.nodup_cons.1 distinct
      have count : items.length = rest.length := by simpa using count
      have places : (rest.zip items).map (·.1) = rest := List.map_fst_zip (by omega)
      -- what is set first is not touched by the rest
      have set : (setAll (rest.zip items) (xs.set p x))[p]? = some x := by
        rw [getElem?_setAll_of_not_mem (by rwa [places]),
          List.getElem?_set_self (inside p List.mem_cons_self)]
      have behind : HoldsAt (setAll (rest.zip items) (xs.set p x)) rest items := by
        refine ih distinct (fun q listed => ?_) count
        rw [List.length_set]
        exact inside q (List.mem_cons_of_mem p listed)
      rw [HoldsAt, List.zip_cons_cons, setAll, List.map_cons, List.map_cons, set, behind]

theorem putAt_setAll (distinct : positions.Nodup) (inside : ∀ p ∈ positions, p < xs.length)
    (count : new.length = positions.length) : PutAt xs positions new (setAll (positions.zip new) xs) where
  length_eq := length_setAll _ xs
  holds := holdsAt_setAll distinct inside count
  others i other := by
    have places : (positions.zip new).map (·.1) = positions := List.map_fst_zip (by omega)
    rw [← places] at other
    exact getElem?_setAll_of_not_mem other

theorem holdsAt_dropAll (positions : List Nat) (xs : List α) :
    HoldsAt xs (otherPositions xs.length positions) (dropAll positions xs) := by
  have all : List.range xs.length = xs.zipIdx.map (·.2) := by
    rw [List.zipIdx_map_snd, List.range_eq_range']
  rw [HoldsAt, otherPositions, all, List.filter_map, List.map_map, dropAll, List.map_map]
  have kept : (fun e : α × Nat => !positions.contains e.2) =
      (fun p => decide (p ∉ positions)) ∘ fun e : α × Nat => e.2 := by
    funext e
    simp
  rw [kept]
  refine List.map_congr_left fun e listed => ?_
  exact List.mem_zipIdx_iff_getElem?.1 (List.mem_filter.1 listed).1

/-! ## One part of the list -/

theorem putAt_splice (low_le : low ≤ xs.length) (high_le : high ≤ xs.length)
    (count : new.length = high - low) :
    PutAt xs (List.range' low (high - low)) new (splice xs low high new) := by
  have length : (splice xs low high new).length = xs.length := by
    simp only [splice, List.length_append, List.length_take, List.length_drop]
    omega
  have front : (xs.take low).length = low := by rw [List.length_take]; omega
  refine ⟨length, ?holds, fun i other => ?others⟩
  case holds =>
    have part : ((splice xs low high new).drop low).take (high - low) = new := by
      rw [splice, List.append_assoc, List.drop_left' front, List.take_left' count]
    have stands := holdsAt_part (splice xs low high new) low (high - low) (by omega)
    rwa [part] at stands
  case others =>
    have outside : i < low ∨ max low high ≤ i := by
      rw [List.mem_range'_1] at other
      omega
    rw [splice]
    rcases outside with before | behind
    · rw [List.getElem?_append_left (by rw [List.length_append]; omega),
        List.getElem?_append_left (by omega), List.getElem?_take, if_pos before]
    · have both : (xs.take low ++ new).length = max low high := by
        rw [List.length_append]
        omega
      rw [List.getElem?_append_right (by omega), both, List.getElem?_drop]
      congr 1
      omega

theorem otherPositions_part {n : Nat} (low_le : low ≤ n) (high_le : high ≤ n) :
    otherPositions n (List.range' low (high - low)) =
      List.range' 0 low ++ List.range' (max low high) (n - max low high) := by
  have all : List.range n = List.range' 0 low ++ List.range' low (high - low) ++
      List.range' (max low high) (n - max low high) := by
    have front : 0 + low = low := by omega
    have middle : 0 + (low + (high - low)) = max low high := by omega
    have whole : low + (high - low) + (n - max low high) = n := by omega
    calc List.range n = List.range' 0 (low + (high - low) + (n - max low high)) := by
          rw [whole, List.range_eq_range']
      _ = _ := by rw [← List.range'_append_1, ← List.range'_append_1, front, middle]
  -- what lies in front of the part and behind it stays, the part itself goes
  have kept (l : List Nat) (outside : ∀ i ∈ l, i < low ∨ max low high ≤ i) :
      l.filter (· ∉ List.range' low (high - low)) = l := by
    refine List.filter_eq_self.2 fun i listed => ?_
    rw [decide_eq_true_eq, List.mem_range'_1]
    have apart := outside i listed
    omega
  have removed : (List.range' low (high - low)).filter (· ∉ List.range' low (high - low)) = [] := by
    simp
  have before : ∀ i ∈ List.range' 0 low, i < low ∨ max low high ≤ i := by
    intro i listed
    rw [List.mem_range'_1] at listed
    omega
  have behind : ∀ i ∈ List.range' (max low high) (n - max low high), i < low ∨ max low high ≤ i :=
    fun i listed => .inr (List.mem_range'_1.1 listed).1
  rw [otherPositions, all, List.filter_append, List.filter_append, kept _ before, removed, kept _ behind,
    List.append_nil]

theorem holdsAt_splice_nil (low_le : low ≤ xs.length) (high_le : high ≤ xs.length) :
    HoldsAt xs (otherPositions xs.length (List.range' low (high - low))) (splice xs low high []) := by
  have before : HoldsAt xs (List.range' 0 low) (xs.take low) := holdsAt_part xs 0 low (by omega)
  have behind : HoldsAt xs (List.range' (max low high) (xs.length - max low high))
      (xs.drop (max low high)) := by
    have part := holdsAt_part xs (max low high) (xs.length - max low high) (by omega)
    have all : (xs.drop (max low high)).length ≤ xs.length - max low high :=
      Nat.le_of_eq List.length_drop
    rwa [List.take_of_length_le all] at part
  rw [otherPositions_part low_le high_le, splice, List.append_nil]
  exact before.append behind

/-! ## The positions of a slice -/

/-- The first place that a bound can stand for; for a backward slice that is the place before all items. -/
def lower (s : Slice) : Int := if s.step < 0 then -1 else 0

/-- The last place that a bound can stand for in a list of `n` items. -/
def upper (s : Slice) (n : Nat) : Int := s.lower + n

/-- A bound as a place of a list of `n` items: a negative one counts from the end of the list, and one that
lies outside is moved to the nearest place. -/
def clamp (s : Slice) (n : Nat) (bound : Int) : Int :=
  if bound < 0 then max s.lower (bound + n) else min (s.upper n) bound

/-- The bounds of a slice of a list of `n` items, as those of a range. A bound that is missing is the end that
the slice comes from or goes to. -/
def indices (s : Slice) (n : Nat) : Int × Int :=
  if s.step < 0 then ((s.start.map (s.clamp n)).getD (s.upper n), (s.stop.map (s.clamp n)).getD s.lower)
  else ((s.start.map (s.clamp n)).getD s.lower, (s.stop.map (s.clamp n)).getD (s.upper n))

/-- The positions of a list of `n` items that a slice stands for. -/
structure Selects (s : Slice) (n : Nat) (positions : List Nat) : Prop where
  /-- They are the numbers of a range between the bounds, in order: -/
  numbers : positions.map Int.ofNat = rangeItems (s.indices n).1 (s.indices n).2 s.step
  /-- from the first bound on in steps, as long as the last bound is not reached. -/
  walked : ∀ k p : Nat, positions[k]? = some p ↔
    (p : Int) = (s.indices n).1 + s.step * k ∧ Before s.step p (s.indices n).2
  inside : ∀ p ∈ positions, p < n
  distinct : positions.Nodup

section
variable {s : Slice} {n : Nat}

theorem place_eq_clamp (s : Slice) (n : Nat) (bound : Int) : s.place n bound = s.clamp n bound := by
  by_cases backward : s.step < 0
  · have way : s.backward = true := decide_eq_true backward
    simp only [place, clamp, upper, lower, way, if_pos backward, if_true]
    split <;> omega
  · have way : s.backward = false := decide_eq_false backward
    simp only [place, clamp, upper, lower, way, if_neg backward, Bool.false_eq_true, if_false]
    split <;> omega

theorem indices_eq (s : Slice) (n : Nat) : s.indices n = (s.first n, s.last n) := by
  unfold indices first last
  by_cases backward : s.step < 0
  · have upper_eq : s.upper n = n - 1 := by rw [upper, lower, if_pos backward]; omega
    have lower_eq : s.lower = -1 := if_pos backward
    have way : s.backward = true := decide_eq_true backward
    rw [if_pos backward, upper_eq, lower_eq, way]
    cases s.start <;> cases s.stop <;> simp [place_eq_clamp]
  · have lower_eq : s.lower = 0 := if_neg backward
    have upper_eq : s.upper n = n := by rw [upper, lower_eq]; omega
    have way : s.backward = false := decide_eq_false backward
    rw [if_neg backward, upper_eq, lower_eq, way]
    cases s.start <;> cases s.stop <;> simp [place_eq_clamp]

theorem clamp_within (s : Slice) (n : Nat) (bound : Int) :
    s.lower ≤ s.clamp n bound ∧ s.clamp n bound ≤ s.upper n := by
  have lower_le : s.lower ≤ 0 := by unfold lower; split <;> decide
  have le_upper : -1 ≤ s.lower := by unfold lower; split <;> decide
  unfold clamp upper
  split <;> omega

theorem indices_within (s : Slice) (n : Nat) :
    (s.lower ≤ (s.indices n).1 ∧ (s.indices n).1 ≤ s.upper n) ∧
      s.lower ≤ (s.indices n).2 ∧ (s.indices n).2 ≤ s.upper n := by
  have order : s.lower ≤ s.upper n := by rw [upper]; omega
  have within (bound : Option Int) (default : Int)
      (h : s.lower ≤ default ∧ default ≤ s.upper n) :
      s.lower ≤ (bound.map (s.clamp n)).getD default ∧ (bound.map (s.clamp n)).getD default ≤ s.upper n := by
    cases bound with
    | none => exact h
    | some bound => exact s.clamp_within n bound
  unfold indices
  split
  · exact ⟨within _ _ ⟨order, Int.le_refl _⟩, within _ _ ⟨Int.le_refl _, order⟩⟩
  · exact ⟨within _ _ ⟨Int.le_refl _, order⟩, within _ _ ⟨order, Int.le_refl _⟩⟩

theorem within_of_before {k : Nat} {p : Int} (step_eq : p = (s.indices n).1 + s.step * k)
    (before : Before s.step p (s.indices n).2) : 0 ≤ p ∧ p < n := by
  obtain ⟨⟨first_ge, first_le⟩, last_ge, last_le⟩ := s.indices_within n
  unfold Before at before
  by_cases backward : s.step < 0
  · have down : s.step * k ≤ 0 :=
      Int.mul_nonpos_of_nonpos_of_nonneg (Int.le_of_lt backward) (Int.natCast_nonneg k)
    rw [upper, lower, if_pos backward] at first_le
    rw [lower, if_pos backward] at last_ge
    rw [if_pos backward] at before
    omega
  · have up : 0 ≤ s.step * k := Int.mul_nonneg (by omega) (Int.natCast_nonneg k)
    rw [lower, if_neg backward] at first_ge
    rw [upper, lower, if_neg backward] at last_le
    rw [if_neg backward] at before
    omega

theorem within_of_mem (moves : s.step ≠ 0) {p : Int}
    (listed : p ∈ rangeItems (s.indices n).1 (s.indices n).2 s.step) : 0 ≤ p ∧ p < n := by
  obtain ⟨k, found⟩ := List.getElem?_of_mem listed
  obtain ⟨step_eq, before⟩ := (getElem?_rangeItems moves).1 found
  exact within_of_before step_eq before

theorem numbers_positions (moves : s.step ≠ 0) (n : Nat) :
    (s.positions n).map Int.ofNat = rangeItems (s.indices n).1 (s.indices n).2 s.step := by
  have range_eq : rangeItems (s.first n) (s.last n) s.step =
      rangeItems (s.indices n).1 (s.indices n).2 s.step := by rw [indices_eq]
  rw [positions, range_eq, List.map_map]
  refine (List.map_congr_left fun p listed => ?_).trans (List.map_id _)
  exact Int.toNat_of_nonneg (within_of_mem moves listed).1

theorem selects_positions (moves : s.step ≠ 0) (n : Nat) : s.Selects n (s.positions n) := by
  have numbers := numbers_positions moves n
  refine ⟨numbers, fun k p => ?walked, fun p listed => ?inside, ?distinct⟩
  case walked =>
    rw [← getElem?_rangeItems moves, ← numbers, List.getElem?_map, Option.map_eq_some_iff]
    constructor
    · exact fun found => ⟨p, found, rfl⟩
    · rintro ⟨q, found, same⟩
      rwa [← Int.ofNat_inj.1 same]
  case inside =>
    have number : Int.ofNat p ∈ (s.positions n).map Int.ofNat := List.mem_map_of_mem listed
    rw [numbers] at number
    exact Int.ofNat_lt.1 (within_of_mem moves number).2
  case distinct =>
    have all : ((s.positions n).map Int.ofNat).Nodup := by
      rw [numbers]
      exact nodup_rangeItems moves
    refine List.Pairwise.of_map Int.ofNat ?_ all
    exact fun p q differ same => differ (congrArg Int.ofNat same)

/-- From the last item but one down in steps of two. -/
example : (⟨some (-2), none, -2⟩ : Slice).positions 5 = [3, 1] := by decide

theorem positions_of_step_one (one : s.step = 1) (n : Nat) :
    s.positions n = List.range' (s.first n).toNat ((s.last n).toNat - (s.first n).toNat) := by
  have moves : s.step ≠ 0 := by omega
  have forward : ¬ s.step < 0 := by omega
  have within := s.indices_within n
  rw [indices_eq, lower, if_neg forward] at within
  -- the two lists have the same numbers at each place
  apply List.ext_getElem?
  intro k
  apply Option.ext
  intro p
  rw [(selects_positions moves n).walked, indices_eq, Before, if_neg forward, one, List.getElem?_eq_some_iff]
  constructor
  · rintro ⟨step_eq, before⟩
    dsimp only at step_eq before
    have lt : k < (List.range' (s.first n).toNat ((s.last n).toNat - (s.first n).toNat)).length := by
      rw [List.length_range']
      omega
    refine ⟨lt, ?_⟩
    rw [List.getElem_range']
    omega
  · rintro ⟨lt, same⟩
    rw [List.length_range'] at lt
    rw [List.getElem_range'] at same
    dsimp only
    omega

theorem bounds_of_step_one (one : s.step = 1) (n : Nat) : (s.first n).toNat ≤ n ∧ (s.last n).toNat ≤ n := by
  have forward : ¬ s.step < 0 := by omega
  have within := s.indices_within n
  rw [indices_eq, upper, lower, if_neg forward] at within
  dsimp only at within
  omega

/-! ## Reading, writing and deleting -/

theorem holdsAt_read (moves : s.step ≠ 0) (xs : List α) :
    HoldsAt xs (s.positions xs.length) (s.read xs) :=
  holdsAt_filterMap (selects_positions moves xs.length).inside

theorem write_eq_ok (moves : s.step ≠ 0) {xs new : List α}
    (count : new.length = (s.positions xs.length).length) :
    ∃ ys, s.write xs new = .ok ys ∧ PutAt xs (s.positions xs.length) new ys := by
  by_cases one : s.step = 1
  · obtain ⟨low_le, high_le⟩ := bounds_of_step_one one xs.length
    rw [positions_of_step_one one] at count ⊢
    rw [List.length_range'] at count
    exact ⟨_, if_pos one, putAt_splice low_le high_le count⟩
  · have selects := selects_positions moves xs.length
    refine ⟨setAll ((s.positions xs.length).zip new) xs, ?_, putAt_setAll selects.distinct selects.inside count⟩
    rw [write, if_neg one]
    exact if_pos count

theorem holdsAt_delete (s : Slice) (xs : List α) :
    HoldsAt xs (otherPositions xs.length (s.positions xs.length)) (s.delete xs) := by
  by_cases one : s.step = 1
  · obtain ⟨low_le, high_le⟩ := bounds_of_step_one one xs.length
    rw [positions_of_step_one one, delete, if_pos one]
    exact holdsAt_splice_nil low_le high_le
  · rw [delete, if_neg one]
    exact holdsAt_dropAll _ xs

end
end Slice
end
end RecordQuery
