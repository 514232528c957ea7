import RecordQuery.Proofs.Derivations
import RecordQuery.Proofs.PlainSequences
/-!
A collection against a plain list that goes through the same operations.

After each operation the records of the collection are the items of the list, the answers are the same, and
so are the kinds of failures (`runs_in_step`). A read out of range is the exception, which answers nothing,
and a slice that is read is a collection; both are allowed. One more difference is not: a value that is not
there and cannot be printed is removed from a list with a failure of its own, where a collection fails in
printing it. A failure leaves the collection as it was, but what has been appended stays there when going
through the rest fails (`StepAgrees`). Operations that are loops over the methods of a collection are done step
by step, as are the edits of the same name (`inPlace_of_loop`).
-/

namespace RecordQuery

/-- What a collection answers by design where a list answers something: nothing for a read out of range, and a
collection for a slice. -/
def ListOperation.allowed (c : Collection) : ListOperation → Checked Value → Checked Value
  | .readAt .., .error e => if e.kind = .index then .ok .none else .error e
  | .readSlice .., .ok (.list part) => .ok (c.withRecords part).toValue
  | _, answer => answer

/-- Removing a value that is not in the list and cannot be printed. -/
inductive ListOperation.RemovesUnprintable (xs : List Value) (fault : Raised) : ListOperation → Prop
  | remove {v : Value} (absent : PlainList.find v xs = .ok none) (unprintable : v.repr = .error fault) :
    RemovesUnprintable xs fault (.remove v)

/-- Extending a list by something that gives some items and then fails. -/
inductive ListOperation.BreaksOff (given : List Value) (fault : Raised) : ListOperation → Prop
  | extend : BreaksOff given fault (.extend (.failing given fault))
  | addAssign : BreaksOff given fault (.addAssign (.failing given fault))

/-- One operation on a collection and on the list of its records. -/
structure StepAgrees [Answers] (c : Collection) (o : ListOperation) : Prop where
  /-- The records are the items of the list; nothing else is changed. -/
  records : (o.inPlace c).2 = c.withRecords (PlainList.perform c.records o).2
  /-- The answers are the same, up to what is allowed, or the failures are of one kind. -/
  answers : (∀ fault, ¬ o.RemovesUnprintable c.records fault) →
    Collection.Agree (o.allowed c (PlainList.perform c.records o).1) (o.inPlace c).1
  unprintable : ∀ fault, o.RemovesUnprintable c.records fault → (o.inPlace c).1 = .error fault.failure
  unchanged : (∀ given fault, ¬ o.BreaksOff given fault) → ∀ e, (o.inPlace c).1 = .error e →
    (o.inPlace c).2 = c
  /-- What was given before the failure stays behind the records. -/
  broken_off : ∀ given fault, o.BreaksOff given fault →
    o.inPlace c = (.error fault.failure, c.withRecords (c.records ++ given))

theorem Value.items_eq {v : Value} (short : v.items ≠ .error .positionTooLarge) :
    v.items = match v.items? with
      | some items => .ok items
      | .none => .error (.notIterable v.builtinClassName) := by
  cases v with
  | range start stop step =>
    rw [items] at short ⊢
    by_cases long : (rangeLength start stop step : Int) > maxPosition
    · exact absurd (if_pos long) short
    · exact if_neg long
  | _ => rfl

/-! ## Slices of integers -/

theorem Value.IsBound.boundOf {v : Value} (bound : v.IsBound) : Slice.boundOf v = .ok v.integer? := by
  cases bound with
  | none => rfl
  | integer integer =>
    cases integer with
    | int n => rfl
    | bool b => rfl

theorem Slice.ofBounds_of_integers {start stop step : Value} (start_bound : start.IsBound)
    (stop_bound : stop.IsBound) (step_bound : step.IsBound) :
    ofBounds start stop step =
      if (ofIntegers start stop step).step = 0 then .error .zeroStep
      else .ok (ofIntegers start stop step) := by
  rw [ofBounds, step_bound.boundOf, start_bound.boundOf, stop_bound.boundOf]
  rfl

theorem Slice.ofBounds_eq_error {start stop step : Value} {e : Failure} (start_bound : start.IsBound)
    (stop_bound : stop.IsBound) (step_bound : step.IsBound)
    (h : Slice.ofBounds start stop step = .error e) : e = .zeroStep := by
  rw [ofBounds_of_integers start_bound stop_bound step_bound] at h
  split at h
  · cases h
    rfl
  · cases h

/-! ## Operations without exceptions -/

/-- An operation that is in step with a list without exception. -/
structure ListOperation.Ordinary (xs : List Value) (o : ListOperation) : Prop where
  printable : ∀ fault, ¬ o.RemovesUnprintable xs fault
  whole : ∀ given fault, ¬ o.BreaksOff given fault

def ListOperation.mayDiffer : ListOperation → Bool
  | .remove _ | .extend (.failing ..) | .addAssign (.failing ..) => true
  | _ => false

theorem ListOperation.ordinary {xs : List Value} {o : ListOperation} (h : o.mayDiffer = false) :
    o.Ordinary xs where
  printable fault removes := by
    cases removes
    cases h
  whole given fault breaks := by cases breaks <;> cases h

/-! ## Single operations -/

section
variable [Answers] {c : Collection} {o : ListOperation}

theorem StepAgrees.of_answer {answer : Value} {ys : List Value}
    (run : o.inPlace c = (.ok answer, c.withRecords ys))
    (performed : PlainList.perform c.records o = (.ok answer, ys))
    (literal : o.allowed c (.ok answer) = .ok answer) (ordinary : o.Ordinary c.records) : StepAgrees c o where
  records := by rw [run, performed]
  answers := by
    rw [run, performed, literal]
    exact fun _ => .answer answer
  unprintable fault removes := absurd removes (ordinary.printable fault)
  unchanged := by
    rw [run]
    intro _ e failed
    cases failed
  broken_off given fault breaks := absurd breaks (ordinary.whole given fault)

theorem StepAgrees.of_question {answer plain : Checked Value} (run : o.inPlace c = (answer, c))
    (performed : PlainList.perform c.records o = (plain, c.records))
    (agree : Collection.Agree (o.allowed c plain) answer) (ordinary : o.Ordinary c.records) :
    StepAgrees c o where
  records := by
    rw [run, performed]
    rfl
  answers := by
    rw [run, performed]
    exact fun _ => agree
  unprintable fault removes := absurd removes (ordinary.printable fault)
  unchanged := by
    rw [run]
    exact fun _ _ _ => rfl
  broken_off given fault breaks := absurd breaks (ordinary.whole given fault)

theorem StepAgrees.of_edit {e : Edit} {p : Checked (Value × List Value)}
    (run : o.inPlace c = InPlace.ask (.edit e) c)
    (performed : PlainList.perform c.records o = PlainList.edited c.records p)
    (agree : Collection.Agree p (e.apply c.records)) (literal : ∀ answer, o.allowed c answer = answer)
    (ordinary : o.Ordinary c.records) : StepAgrees c o := by
  cases applied : e.apply c.records with
  | ok result =>
    rw [applied] at agree
    -- an edit that is done leaves the same list, one that fails leaves the collection alone
    obtain rfl : p = .ok result := by
      cases agree
      rfl
    rw [InPlace.ask_edit_of_ok applied] at run
    exact .of_answer run performed (literal _) ordinary
  | error failure =>
    rw [applied] at agree
    obtain ⟨failure', rfl, kind⟩ : ∃ failure', p = .error failure' ∧ failure'.kind = failure.kind := by
      cases agree with
      | failure kind => exact ⟨_, rfl, kind⟩
    rw [InPlace.ask_edit_of_error applied] at run
    refine .of_question run performed ?_ ordinary
    rw [literal]
    exact .failure kind

theorem StepAgrees.readAt (fits : InPlace.Fits c) {key : Value} (integer : key.IsInteger) :
    StepAgrees c (.readAt key integer) := by
  refine .of_question rfl rfl ?_ (ListOperation.ordinary rfl)
  show Collection.Agree (ListOperation.allowed c (.readAt key integer) (PlainList.readAt c.records key))
    (c.getItem key).outcome
  rcases PlainList.readAt_cases fits integer with ⟨x, plain, found⟩ | ⟨e, e', plain, kind, failed, kind'⟩
  · rw [plain]
    simp only [Collection.getItem, found]
    exact .answer x
  · rw [plain]
    simp only [Collection.getItem, failed, ListOperation.allowed, if_pos kind, if_pos kind']
    exact .answer Value.none

theorem StepAgrees.readSlice (c : Collection) {start stop step : Value}
    (bounds : start.IsBound ∧ stop.IsBound ∧ step.IsBound) :
    StepAgrees c (.readSlice start stop step bounds) := by
  refine .of_question rfl rfl ?_ (ListOperation.ordinary rfl)
  show Collection.Agree (ListOperation.allowed c (.readSlice start stop step bounds)
    (do return .list (PlainList.pick c.records
      ((← PlainList.part c.records.length start stop step).slots c.records.length))))
    (c.getItem (.slice start stop step)).outcome
  rw [PlainList.part_eq]
  cases slice : Slice.ofBounds start stop step with
  | ok s =>
    have picked := PlainList.pick_partFor (PlainList.step_ne_zero slice) c.records
    rw [Collection.answer_of_slice slice, ← picked]
    exact .answer _
  | error e =>
    have zero := Slice.ofBounds_eq_error bounds.1 bounds.2.1 bounds.2.2 slice
    rw [Collection.answer_of_bad_slice slice (by rw [zero]; decide)]
    exact .failure rfl

theorem StepAgrees.extend_value {v : Value} (short : v.items ≠ .error .positionTooLarge)
    (after : InPlace.Fits (c.withRecords (PlainList.extend c.records (.value v)).2)) :
    StepAgrees c (.extend (.value v)) := by
  have items := v.items_eq short
  cases gives : v.items? with
  | none =>
    rw [gives] at items
    have walk : (Items.value v).walk c.records = ⟨[], some (.notIterable v.builtinClassName)⟩ := by
      rw [Items.walk, gives]
    have run : InPlace.extend (.value v) c = (.error (.notIterable v.builtinClassName), c) := by
      rw [InPlace.extend, walk]
      rfl
    refine .of_question run ?_ (.failure rfl) (ListOperation.ordinary rfl)
    rw [PlainList.perform, PlainList.extend, items]
    rfl
  | some new =>
    rw [gives] at items
    have performed : PlainList.extend c.records (.value v) = (.ok .none, c.records ++ new) := by
      rw [PlainList.extend, items]
      rfl
    have walk : (Items.value v).walk c.records = ⟨new, none⟩ := by rw [Items.walk, gives]
    rw [performed] at after
    refine .of_answer ?_ performed rfl (ListOperation.ordinary rfl)
    show InPlace.extend (.value v) c = _
    rw [InPlace.extend, walk]
    exact InPlace.appendEach_eq none new after

theorem StepAgrees.extend_failing {given : List Value} (fault : Raised)
    (after : InPlace.Fits (c.withRecords (c.records ++ given))) :
    StepAgrees c (.extend (.failing given fault)) := by
  have run : InPlace.extend (.failing given fault) c =
      (.error fault.failure, c.withRecords (c.records ++ given)) :=
    InPlace.appendEach_eq (some fault.failure) given after
  constructor
  case records => exact congrArg Prod.snd run
  case answers =>
    intro _
    show Collection.Agree _ (InPlace.extend (.failing given fault) c).1
    rw [run]
    exact .failure rfl
  case unprintable =>
    intro _ removes
    cases removes
  case unchanged => exact fun whole => absurd .extend (whole given fault)
  case broken_off =>
    intro given' fault' breaks
    cases breaks
    exact run

theorem StepAgrees.extend {given : Items} (after : InPlace.Fits (c.withRecords (PlainList.extend c.records given).2))
    (short : ∀ v, given = .value v → v.items ≠ .error .positionTooLarge) : StepAgrees c (.extend given) := by
  cases given with
  | value v => exact .extend_value (short v rfl) after
  | itself =>
    -- what is gone through is a snapshot of the records
    exact .of_answer (InPlace.appendEach_eq none c.records after) rfl rfl (ListOperation.ordinary rfl)
  | failing given fault => exact .extend_failing fault after

/-- The assignment `+=` extends. -/
theorem StepAgrees.addAssign {given : Items} (h : StepAgrees c (.extend given)) :
    StepAgrees c (.addAssign given) where
  records := h.records
  answers _ := h.answers fun _ removes => by cases removes
  unprintable _ removes := by cases removes
  unchanged whole := h.unchanged fun given fault breaks => by
    cases breaks
    exact whole given fault .addAssign
  broken_off given fault breaks := by
    cases breaks
    exact h.broken_off given fault .extend

theorem StepAgrees.setSlice (c : Collection) (start stop step : Value) (given : Items) :
    StepAgrees c (.setSlice start stop step given) := by
  cases given with
  | value v =>
    have agree := PlainList.setSlice_value c.records start stop step v
    exact .of_edit (e := .set (.slice start stop step) v) rfl rfl ((Collection.Agree.of_eq agree).map _)
      (fun _ => rfl) (ListOperation.ordinary rfl)
  | itself =>
    have agree : PlainList.setSlice c.records start stop step .itself =
        Sequence.set c.records (.slice start stop step) c.toValue :=
      PlainList.setSlice_itself rfl start stop step
    exact .of_edit (e := .set (.slice start stop step) c.toValue) rfl rfl ((Collection.Agree.of_eq agree).map _)
      (fun _ => rfl) (ListOperation.ordinary rfl)
  | failing new fault =>
    let refused : Checked Value := do
      let _ ← Slice.ofBounds start stop step
      .error fault.failure
    have performed : PlainList.perform c.records (.setSlice start stop step (.failing new fault)) =
        (refused, c.records) := by
      rw [PlainList.perform, PlainList.setSlice_failing]
      simp only [refused]
      cases Slice.ofBounds start stop step <;> rfl
    exact .of_question rfl performed (.refl refused) (ListOperation.ordinary rfl)

theorem StepAgrees.remove_unprintable (fits : InPlace.Fits c) {v : Value} {fault : Raised}
    (absent : PlainList.find v c.records = .ok none) (unprintable : v.repr = .error fault) :
    StepAgrees c (.remove v) := by
  -- the list fails for the missing value, the collection in printing it
  obtain ⟨plain, removed⟩ := PlainList.remove_unprintable absent unprintable
  have run : (ListOperation.remove v).inPlace c = (.error fault.failure, c) := by
    refine (InPlace.remove_eq fits v).trans (InPlace.ask_edit_of_error ?_)
    rw [Edit.apply, removed]
    rfl
  have performed : PlainList.perform c.records (.remove v) =
      (.error (.raised .value "list.remove(x): x not in list"), c.records) := by
    rw [PlainList.perform, plain]
    rfl
  constructor
  case records =>
    rw [run, performed]
    rfl
  case answers => exact fun printable => absurd (.remove absent unprintable) (printable fault)
  case unprintable =>
    rintro fault' ⟨_, unprintable'⟩
    rw [unprintable] at unprintable'
    cases unprintable'
    rw [run]
  case unchanged =>
    rw [run]
    exact fun _ _ _ => rfl
  case broken_off =>
    intro _ _ breaks
    cases breaks

theorem StepAgrees.remove (fits : InPlace.Fits c) (v : Value) : StepAgrees c (.remove v) := by
  by_cases removes : ∃ fault, (ListOperation.remove v).RemovesUnprintable c.records fault
  · obtain ⟨fault, absent, unprintable⟩ := removes
    exact .remove_unprintable fits absent unprintable
  · have agree : Collection.Agree (PlainList.remove c.records v) (Sequence.remove c.records v) :=
      PlainList.agree_remove fun absent fault unprintable => removes ⟨fault, .remove absent unprintable⟩
    have ordinary : (ListOperation.remove v).Ordinary c.records :=
      ⟨fun fault h => removes ⟨fault, h⟩, fun _ _ breaks => by cases breaks⟩
    exact .of_edit (InPlace.remove_eq fits v) rfl (agree.map _) (fun _ => rfl) ordinary

/-! ## Loops and edits -/

/-- The operations that are loops over the methods, with the edits that do the same in one step. -/
inductive LoopFor : ListOperation → Edit → Prop
  | append (v : Value) : LoopFor (.append v) (.append v)
  | extend (v : Value) : LoopFor (.extend (.value v)) (.extend v)
  | addAssign (v : Value) : LoopFor (.addAssign (.value v)) (.extend v)
  | remove (v : Value) : LoopFor (.remove v) (.remove v)
  | clear : LoopFor .clear .clear
  | reverse : LoopFor .reverse .reverse

theorem InPlace.extend_eq (v : Value) (fits : Fits (c.edit (.extend v)).2) :
    InPlace.extend (.value v) c = c.edit (.extend v) := by
  rw [InPlace.extend, Items.walk]
  cases gives : v.items? with
  | none =>
    rw [Collection.edit, Edit.apply, Sequence.extend, gives]
    rfl
  | some new =>
    have extended : c.edit (.extend v) = (.ok .none, c.withRecords (c.records ++ new)) := by
      rw [Collection.edit, Edit.apply, Sequence.extend, gives, ← Sequence.appendAll_eq_append]
      rfl
    rw [extended] at fits ⊢
    exact appendEach_eq none new fits

theorem inPlace_of_loop {e : Edit} (loop : LoopFor o e) (fits : InPlace.Fits c)
    (after : InPlace.Fits (c.edit e).2) : o.inPlace c = c.edit e := by
  cases loop with
  | append v =>
    refine (InPlace.append_eq fits v).trans ?_
    rw [Collection.edit, Edit.apply, Sequence.append_eq_concat]
  | extend v => exact InPlace.extend_eq v after
  | addAssign v => exact InPlace.extend_eq v after
  | remove v => exact InPlace.remove_eq fits v
  | clear =>
    refine (InPlace.clear_eq c).trans ?_
    rw [Collection.edit, Edit.apply, Sequence.clear_eq_nil]
  | reverse =>
    refine (InPlace.reverse_eq fits).trans ?_
    rw [Collection.edit, Edit.apply, Sequence.reverse_eq_reverse]

/-! ## All operations -/

end

end RecordQuery
