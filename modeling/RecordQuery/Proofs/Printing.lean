import RecordQuery.Value.Truth
/-!
Which values cannot be printed.

Whether a value can be printed depends on how many calls may still be opened. More of them do no harm
(`printable_mono`), and lists that are nested as deeply as there are calls use them up (`unprintable_nested`).
-/

namespace RecordQuery

theorem withinCalls_mono {calls room more : Nat} {inside : Nat → Option Raised} (le : room ≤ more)
    (deeper : ∀ {room more : Nat}, room ≤ more → inside room = none → inside more = none)
    (h : withinCalls calls room inside = none) : withinCalls calls more inside = none := by
  unfold withinCalls at h ⊢
  split at h
  · cases h
  · rename_i enough
    rw [if_neg (by omega)]
    exact deeper (by omega) h

mutual

theorem Value.printable_mono {room more : Nat} (le : room ≤ more) :
    (v : Value) → v.unprintable? room = none → v.unprintable? more = none
  | .list items, h | .tuple items, h => withinCalls_mono le (fun le => printableAmong_mono le items) h
  | .collection _ records _, h => withinCalls_mono le (fun le => printableAmong_mono le records) h
  | .dict entries, h | .map entries, h =>
    withinCalls_mono le (fun le => printableEntries_mono le entries) h
  | .record fields _, h => withinCalls_mono le (fun le => printableFields_mono le fields) h
  | .search entries, h => withinCalls_mono le (fun le => printableMatchers_mono le entries) h
  | .matcher m, h => withinCalls_mono le (fun le => m.printable_mono le) h
  | .slice start stop step, h => by
    refine withinCalls_mono le (fun le within => ?_) h
    simp only [Option.or_eq_none_iff] at within ⊢
    exact ⟨start.printable_mono le within.1, stop.printable_mono le within.2.1,
      step.printable_mono le within.2.2⟩
  | .none, h | .bool _, h | .int _, h | .float _, h | .text _, h | .bytes _, h | .pattern _, h
  | .bytesPattern _, h | .kind _, h | .range .., h | .function .., h | .index .., h | .odd .., h
  | .missing, h | .finderCall .., h | .method _, h => withinCalls_mono le (fun _ => id) h

theorem printableAmong_mono {room more : Nat} (le : room ≤ more) :
    (items : List Value) → unprintableAmong? items room = none → unprintableAmong? items more = none
  | [], _ => rfl
  | v :: rest, h => by
    obtain ⟨here, behind⟩ := Option.or_eq_none_iff.1 h
    exact Option.or_eq_none_iff.2 ⟨v.printable_mono le here, printableAmong_mono le rest behind⟩

theorem printableEntries_mono {room more : Nat} (le : room ≤ more) :
    (entries : List (Value × Value)) → unprintableEntries? entries room = none →
      unprintableEntries? entries more = none
  | [], _ => rfl
  | (k, v) :: rest, h => by
    simp only [unprintableEntries?, Option.or_eq_none_iff] at h ⊢
    exact ⟨k.printable_mono le h.1, v.printable_mono le h.2.1, printableEntries_mono le rest h.2.2⟩

theorem printableFields_mono {room more : Nat} (le : room ≤ more) :
    (fields : List (String × Value)) → unprintableFields? fields room = none →
      unprintableFields? fields more = none
  | [], _ => rfl
  | (_, v) :: rest, h => by
    obtain ⟨here, behind⟩ := Option.or_eq_none_iff.1 h
    exact Option.or_eq_none_iff.2 ⟨v.printable_mono le here, printableFields_mono le rest behind⟩

theorem printableMatchers_mono {room more : Nat} (le : room ≤ more) :
    (entries : List (String × Matcher)) → unprintableMatchers? entries room = none →
      unprintableMatchers? entries more = none
  | [], _ => rfl
  | (_, m) :: rest, h => by
    obtain ⟨here, behind⟩ := Option.or_eq_none_iff.1 h
    exact Option.or_eq_none_iff.2 ⟨m.printable_mono le here, printableMatchers_mono le rest behind⟩

theorem Matcher.printable_mono {room more : Nat} (le : room ≤ more) :
    (m : Matcher) → m.unprintable? room = none → m.unprintable? more = none
  | .literal v, h | .predicate v, h => v.printable_mono le h
  | .pattern _, h | .kind _, h | .range .., h => h

end

def Value.nested : Nat → Value
  | 0 => .list []
  | depth + 1 => .list [nested depth]

theorem Value.unprintable_nested {depth room : Nat} (deep : room ≤ depth) :
    (nested depth).unprintable? room = some .tooDeep := by
  induction depth generalizing room with
  | zero => rw [Nat.le_zero.1 deep]; rfl
  | succ depth ih =>
    cases room with
    | zero => rfl
    | succ room =>
      have inside := ih (Nat.le_of_succ_le_succ deep)
      show withinCalls 1 (room + 1) (unprintableAmong? [nested depth]) = _
      rw [withinCalls, if_neg (by omega), Nat.add_sub_cancel, unprintableAmong?, inside]
      rfl

end RecordQuery
