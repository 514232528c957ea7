import RecordQuery.Collection.Basic
import RecordQuery.Proofs.ValidFinders
/-!
Default finders pass their own validation, so that a collection derived from another one has the finders of
the other one, and deriving it never fails (`spawn_eq`). The first collection has the finders that were asked
for, and none of them is left out (`asked_of_ofValue`).
-/

namespace RecordQuery
namespace DefaultFinders

/-! ## The finders that a value asks for -/

/-- The names that a value asks for as finders: none, a single one, or the texts that its items are. -/
def Asked (v : Value) (names : List String) : Prop :=
  match v with
  | .none => names = []
  | .text s => names = [s]
  | v => ∃ items, v.items = .ok items ∧ items.map Search.textOf = names.map .ok

theorem map_textOf {items : List Value} {names : List String} (h : items.map nameOf? = names.map some) :
    items.map Search.textOf = names.map .ok := by
  induction items generalizing names with
  | nil =>
    obtain rfl : names = [] := List.map_eq_nil_iff.1 h.symm
    rfl
  | cons item rest ih =>
    cases names with
    | nil => cases h
    | cons name names =>
      obtain ⟨named, others⟩ := List.cons.inj h
      rw [List.map_cons, List.map_cons, textOf_of_name named, ih others]

theorem validate_tuple_eq_ok {items : List Value} {f : DefaultFinders}
    (h : validate (.tuple items) = .ok f) : items.map Search.textOf = f.names.map .ok := by
  rw [validate_of_items rfl] at h
  split at h
  · rename_i valid
    cases h
    rw [names_ofNames fun name => nonempty_of_mem_namesAmong]
    exact map_textOf (map_nameOf? (offenders_eq_nil.1 valid))
  · cases h

theorem asked_of_ofValue {v : Value} {f : DefaultFinders} (h : ofValue v = .ok f) :
    Asked v f.names := by
  have of_items (items : Checked (List Value))
      (h : items >>= (fun items => validate (.tuple items)) = .ok f) :
      ∃ xs, items = .ok xs ∧ xs.map Search.textOf = f.names.map .ok := by
    cases items with
    | error e => cases h
    | ok xs => exact ⟨xs, rfl, validate_tuple_eq_ok h⟩
  cases v with
  | none =>
    cases h
    rfl
  | text s =>
    obtain ⟨name, names, same⟩ := List.map_eq_singleton_iff.1 (validate_tuple_eq_ok h).symm
    cases same
    exact names
  | _ => exact of_items _ h

end DefaultFinders

namespace Collection

theorem spawn_eq (c : Collection) (records : List Value) :
    c.spawn records = .ok (c.withRecords records) := by
  rw [spawn, DefaultFinders.ofValue_toValue]
  rfl

end Collection
end RecordQuery
