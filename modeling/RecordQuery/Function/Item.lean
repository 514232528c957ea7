import RecordQuery.Collection.Lookup
/-!
Reading an item of any value by a key.
-/

namespace RecordQuery
namespace Value

def rangePart (start stop step : Int) (s : Slice) : Value :=
  let n := rangeLength start stop step
  .range (start + step * s.first n) (start + step * s.last n) (step * s.step)

def rangeItem (start stop step : Int) (key : Sequence.Key) : Checked Value :=
  match key with
  | .slice s => .ok (rangePart start stop step s)
  | .index i =>
    match Sequence.position? (rangeLength start stop step) i with
    | some k => .ok (.int (start + step * k))
    | .none => .error .outOfRange

/-- The item at a native key of a list whose items and parts stand for values. -/
def selected (item : α → Value) (part : List α → Value) (xs : List α) (key : Value) :
    Checked Value := do
  match ← Sequence.get xs key with
  | .item x => return item x
  | .part xs => return part xs

def entryAt (entries : List (Value × Value)) (key : Value) : Checked Value := do
  key.checkKey
  match valueAt? entries key with
  | some v => return v
  | .none => .error (.absentKey key)

/-- The item of a value at a key: by position, by key, or by a lookup. -/
def item [Answers] (v key : Value) : Run Value :=
  match v with
  | .list xs => .ofChecked (selected id .list xs key)
  | .tuple xs => .ofChecked (selected id .tuple xs key)
  | .text s =>
    .ofChecked (selected (fun c => .text (String.singleton c)) (fun cs => .text (String.ofList cs))
      s.toList key)
  | .bytes b => .ofChecked (selected (fun n => .int n.toNat) .bytes b key)
  | .range start stop step =>
    .ofChecked (do rangeItem start stop step (← Sequence.keyOf key))
  | .dict entries | .map entries => .ofChecked (entryAt entries key)
  | .search entries => .ofChecked (entryAt (Search.entries entries) key)
  | .collection cls records finders => (Collection.mk cls records finders).getItem key
  | v => .fail (.notAnIndex v.builtinClassName)

def holds (v item : Value) : Checked Bool :=
  match v with
  | .text s =>
    match item with
    | .text t => .ok (occursIn t.toList s.toList)
    | _ => .error (.notAnIndex item.builtinClassName)
  | .bytes b =>
    match item with
    | .bytes part => .ok (occursIn part b)
    | item =>
      match item.index? with
      | some n => do
        let n ← n
        if 0 ≤ n ∧ n < 256 then return b.any fun m => (m.toNat : Int) == n
        else .error (.construction .value "byte must be in range(0, 256)")
      | .none => .error (.notAnIndex item.builtinClassName)
  | .dict entries | .map entries => do
    item.checkKey
    return (valueAt? entries item).isSome
  | .range start stop step => inRange start stop step item
  | v => do anySame item (← v.items)

end Value
end RecordQuery
