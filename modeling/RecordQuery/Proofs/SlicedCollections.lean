import RecordQuery.Proofs.PlainLists
import RecordQuery.Proofs.SlicePositions
/-!
Collections read, written and deleted by slices.

A slice of integers addresses the same positions of a collection in all three (`slice_addresses`): reading
answers the records there, in the order of the positions; as many items as there are positions can be assigned
and are read back, while all other records stay where they are; deleting leaves the records at all other
positions in their order. So what a slice reads can be assigned to it, and nothing is changed.
-/

namespace RecordQuery
namespace Collection

section
variable [Answers]

/-- A key by which the records at certain positions are read, written and deleted. -/
structure Addresses (c : Collection) (key : Value) (positions : List Nat) : Prop where
  /-- Reading answers a collection of the records at the positions, in the order of the positions. -/
  reads : ∃ part, (c.getItem key).outcome = .ok (c.withRecords part).toValue ∧
    HoldsAt c.records positions part
  /-- As many items as there are positions are put there, nothing else is changed, and reading answers them. -/
  writes : ∀ v items, v.items = .ok items → items.length = positions.length →
    ∃ records, c.edit (.set key v) = (.ok .none, c.withRecords records) ∧
      PutAt c.records positions items records ∧
      ((c.withRecords records).getItem key).outcome = .ok (c.withRecords items).toValue
  /-- What is read can be assigned, and changes nothing. -/
  keeps : ∀ v, (c.getItem key).outcome = .ok v → c.edit (.set key v) = (.ok .none, c)
  /-- Deleting leaves the records at all other positions, in their order. -/
  deletes : ∃ records, c.edit (.delete key) = (.ok .none, c.withRecords records) ∧
    HoldsAt c.records (otherPositions c.records.length positions) records

end

/-! ## Edits by a slice -/

section
variable {c : Collection} {start stop step v : Value} {s : Slice}

theorem edit_set_slice {items records : List Value} (bounds : Slice.ofBounds start stop step = .ok s)
    (given : v.items = .ok items) (written : s.write c.records items = .ok records) :
    c.edit (.set (.slice start stop step) v) = (.ok .none, c.withRecords records) := by
  have set : Sequence.set c.records (.slice start stop step) v = .ok records := by
    rw [PlainList.set_slice, bounds]
    show Sequence.assigned s v >>= _ = _
    rw [Sequence.assigned, given]
    exact written
  rw [edit, Edit.apply, set]
  rfl

theorem edit_delete_slice (bounds : Slice.ofBounds start stop step = .ok s) :
    c.edit (.delete (.slice start stop step)) = (.ok .none, c.withRecords (s.delete c.records)) := by
  have delete : Sequence.delete c.records (.slice start stop step) = .ok (s.delete c.records) := by
    show (Sequence.Key.slice <$> Slice.ofBounds start stop step) >>= _ = _
    rw [bounds]
    rfl
  rw [edit, Edit.apply, delete]
  rfl

end

/-! ## The three together -/

section
variable [Answers] {start stop step : Value} {s : Slice}

theorem addresses_of_bounds (c : Collection) (bounds : Slice.ofBounds start stop step = .ok s)
    (moves : s.step ≠ 0) : c.Addresses (.slice start stop step) (s.positions c.records.length) := by
  have stands := Slice.holdsAt_read moves c.records
  refine ⟨⟨_, answer_of_slice bounds, stands⟩, fun v items given count => ?writes, fun v read => ?keeps,
    ⟨_, edit_delete_slice bounds, s.holdsAt_delete c.records⟩⟩
  case writes =>
    obtain ⟨records, written, put⟩ := Slice.write_eq_ok moves count
    refine ⟨records, edit_set_slice bounds given written, put, ?_⟩
    -- as many records as before, so the slice has the same positions
    have read : HoldsAt records (s.positions c.records.length) (s.read records) := by
      rw [← put.length_eq]
      exact Slice.holdsAt_read moves records
    rw [answer_of_slice bounds]
    show Except.ok (c.withRecords (s.read records)).toValue = _
    rw [read.unique put.holds]
  case keeps =>
    rw [answer_of_slice bounds] at read
    cases read
    obtain ⟨records, written, put⟩ := Slice.write_eq_ok moves stands.length_eq
    rw [edit_set_slice bounds rfl written, put.eq_self stands]
    rfl

/-- Reading, writing and deleting by a slice of integers address the same positions: those that the slice
stands for in a list of as many items as there are records. -/
theorem slice_addresses (c : Collection) (start_bound : start.IsBound) (stop_bound : stop.IsBound)
    (step_bound : step.IsBound) (moves : (Slice.ofIntegers start stop step).step ≠ 0) :
    ∃ positions, (Slice.ofIntegers start stop step).Selects c.records.length positions ∧
      c.Addresses (.slice start stop step) positions := by
  have bounds : Slice.ofBounds start stop step = .ok (Slice.ofIntegers start stop step) := by
    rw [Slice.ofBounds_of_integers start_bound stop_bound step_bound, if_neg moves]
  exact ⟨_, Slice.selects_positions moves c.records.length, c.addresses_of_bounds bounds moves⟩

end

/-- Every other record, from a bound beyond the end down to the first one. -/
theorem slice_addresses_backward :
    let c : Collection := ⟨.base, [.int 10, .int 20, .int 30, .int 40, .int 50], .none⟩
    let s : Slice := Slice.ofIntegers (.int 9) .none (.int (-2))
    let key : Value := .slice (.int 9) .none (.int (-2))
    Value.IsBound (.int 9) ∧ Value.IsBound .none ∧ Value.IsBound (.int (-2)) ∧ s.step ≠ 0 ∧
      s.Selects 5 [4, 2, 0] ∧ c.Addresses key [4, 2, 0] ∧
      (c.getItem key).outcome = .ok (c.withRecords [.int 50, .int 30, .int 10]).toValue ∧
      c.edit (.set key (.tuple [.int 1, .int 2, .int 3])) =
        (.ok .none, c.withRecords [.int 3, .int 20, .int 2, .int 40, .int 1]) ∧
      c.edit (.delete key) = (.ok .none, c.withRecords [.int 20, .int 40]) := by
  intro c s key
  have start_bound : Value.IsBound (.int 9) := .integer (.int 9)
  have step_bound : Value.IsBound (.int (-2)) := .integer (.int (-2))
  have moves : s.step ≠ 0 := by decide
  obtain ⟨positions, selects, addresses⟩ := slice_addresses c start_bound .none step_bound moves
  obtain rfl : positions = [4, 2, 0] := by
    refine List.map_injective_iff.2 (fun _ _ => Int.ofNat_inj.1) (selects.numbers.trans ?_)
    decide
  obtain ⟨part, read, stands⟩ := addresses.reads
  obtain rfl : part = [.int 50, .int 30, .int 10] := stands.unique rfl
  obtain ⟨rest, deleted, others⟩ := addresses.deletes
  obtain rfl : rest = [.int 20, .int 40] := others.unique rfl
  have written : c.edit (.set key (.tuple [.int 1, .int 2, .int 3])) =
      (.ok .none, c.withRecords [.int 3, .int 20, .int 2, .int 40, .int 1]) := by with_unfolding_all rfl
  exact ⟨start_bound, .none, step_bound, moves, selects, addresses, read, written, deleted⟩

end Collection
end RecordQuery
