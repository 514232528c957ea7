import RecordQuery.Value.Equality
/-!
Values as sequences: their items, their length, and whether they hold an item.
-/

namespace RecordQuery

/-- The largest length and position. -/
def maxPosition : Int := Nat.pow 2 63 - 1

def Matcher.fields (m : Matcher) : List (String × Value) :=
  [("kind", .text m.sort.word), (m.sort.fieldName, m.expected)]

namespace Value

/-- The items of a value, if it can be iterated. A mapping gives its keys, a search its names, a matcher
its fields with their names. -/
def items? : Value → Option (List Value)
  | .text s => some (s.toList.map fun c => .text (String.singleton c))
  | .bytes b => some (b.map fun n => .int n.toNat)
  | .list items | .tuple items | .collection _ items _ => some items
  | .dict entries | .map entries => some (entries.map (·.1))
  | .range start stop step => some ((rangeItems start stop step).map .int)
  | .search entries => some (entries.map fun e => .text e.1)
  | .matcher m => some (m.fields.map fun f => .tuple [.text f.1, f.2])
  | _ => .none

def items (v : Value) : Checked (List Value) :=
  match v with
  | .range start stop step =>
    if (rangeLength start stop step : Int) > maxPosition then .error .positionTooLarge
    else .ok ((rangeItems start stop step).map .int)
  | v =>
    match v.items? with
    | some items => .ok items
    | .none => .error (.notIterable v.builtinClassName)

def length? : Value → Option (Checked Nat)
  | .text s => some (.ok s.length)
  | .bytes b => some (.ok b.length)
  | .list items | .tuple items | .collection _ items _ => some (.ok items.length)
  | .dict entries | .map entries => some (.ok entries.length)
  | .search entries => some (.ok entries.length)
  | .range start stop step =>
    let n := rangeLength start stop step
    some (if (n : Int) > maxPosition then .error .positionTooLarge else .ok n)
  | _ => .none

/-- The integer that a value stands for as an index, if it is one; an index object may fail to give
it. -/
def index? : Value → Option (Checked Int)
  | .int n => some (.ok n)
  | .bool b => some (.ok b.toNat)
  | .index _ n .none => some (.ok n)
  | .index _ _ (some fault) => some (.error (.raised fault "index boom"))
  | _ => .none

def integer? : Value → Option Int
  | .int n => some n
  | .bool b => some b.toNat
  | _ => Option.none

def fitsPosition (n : Int) : Bool := -maxPosition - 1 ≤ n && n ≤ maxPosition

def rangeHolds (start stop step n : Int) : Bool :=
  if step > 0 then start ≤ n && n < stop && (n - start) % step == 0
  else stop < n && n ≤ start && (start - n) % (-step) == 0

/-- Whether a value counts as equal to one of `count` numbers, which are compared in order. -/
def sameAsNumber (v : Value) (step : Int) : (count : Nat) → (number : Int) → Checked Bool
  | 0, _ => .ok false
  | count + 1, number => do
    if ← (Value.int number).sameItem v then return true else sameAsNumber v step count (number + step)

/-- Whether an item is equal to a number of a range. Only an odd object has to be compared with them. -/
def inRange (start stop step : Int) (item : Value) : Checked Bool :=
  if rangeLength start stop step = 0 then .ok false
  else
    match item with
    | .int n => .ok (rangeHolds start stop step n)
    | .bool b => .ok (rangeHolds start stop step b.toNat)
    | .float x =>
      .ok (match x.truncate? with
        | some n => x.orderInt? n == some .eq && rangeHolds start stop step n
        | .none => false)
    | .odd .. => sameAsNumber item step (rangeLength start stop step) start
    | _ => .ok false

/-- Whether one of the items counts as equal to a value. The items are asked in order. -/
def anySame (v : Value) : List Value → Checked Bool
  | [] => .ok false
  | item :: rest => do if ← item.sameItem v then return true else anySame v rest

def occursIn [BEq α] (part : List α) : List α → Bool
  | [] => part.isEmpty
  | c :: rest => part.isPrefixOf (c :: rest) || occursIn part rest

end Value

mutual

/-- The class of the first value, looking inside tuples and matchers, that cannot be a key. -/
def Value.unhashable? : Value → Option String
  | .list _ => some "list"
  | .dict _ => some "dict"
  | .map _ => some "Map"
  | .record .. => some "Rec"
  | .function .. => some "Fn"
  | .slice .. => some "slice"
  | .odd _ oddity => some oddity.className
  | .search _ => some "Search"
  | .collection cls .. => some cls.name
  | .tuple items => unhashableIn? items
  | .matcher m => m.unhashable?
  | _ => .none

/-- The class of the first value in a list that cannot be a key. -/
def unhashableIn? : List Value → Option String
  | [] => .none
  | v :: rest => v.unhashable?.or (unhashableIn? rest)

def Matcher.unhashable? : Matcher → Option String
  | .literal v | .predicate v => v.unhashable?
  | _ => .none

end

def Value.checkKey (v : Value) : Checked Unit :=
  match v.unhashable? with
  | some cls => .error (.unhashable cls)
  | .none => .ok ()

/-- The entries with one more: a key that is there keeps its place and gets the new value. -/
def putEntry (entries : List (Value × Value)) (key value : Value) : List (Value × Value) :=
  if entries.any fun e => e.1.sameKey key then
    entries.map fun e => if e.1.sameKey key then (e.1, value) else e
  else entries ++ [(key, value)]

/-- The entries of the first mapping with those of the second put in, in order. -/
def mergeEntries (entries more : List (Value × Value)) : List (Value × Value) :=
  more.foldl (fun es e => putEntry es e.1 e.2) entries

end RecordQuery
