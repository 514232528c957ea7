import RecordQuery.Search
/-!
Criteria: the ways to say which records are wanted, and the predicate that they come down to.
-/

namespace RecordQuery

/-- What decides whether a record is wanted. -/
inductive Predicate
  | search (s : Search)
  /-- A callable asked about the whole record. -/
  | function (callable : Value)

def Predicate.answer [Answers] (p : Predicate) (record : Value) : Run Value :=
  match p with
  | .search s => do return .bool (← s.accepts record)
  | .function f => Answers.resultOf f record

def Predicate.holds [Answers] (p : Predicate) (record : Value) : Run Bool :=
  match p with
  | .search s => s.accepts record
  | .function f => do
    let result ← Answers.resultOf f record
    Run.ofChecked result.truth

namespace Criteria

def ofSearch (s : Search) : Run Predicate := do
  Run.tell (.builtFinder s.names)
  return .search s

def ofEntries (entries : List (Value × Value)) : Run Predicate := do
  let s ← Run.ofChecked (Search.ofEntries entries)
  ofSearch s

def named (attributes : List (String × Value)) : List (Value × Value) :=
  attributes.map fun a => (.text a.1, a.2)

/-- The predicate that criteria and additional attribute criteria come down to. An attribute replaces
the entry of its name; no criteria at all leave the attributes alone. -/
def predicate (criteria : Value) (attributes : List (String × Value)) : Run Predicate :=
  match criteria with
  | .none => ofEntries (mergeEntries [] (named attributes))
  | .search s =>
    if attributes.isEmpty then ofSearch s
    else ofEntries (mergeEntries (Search.entries s) (named attributes))
  | .dict entries | .map entries => ofEntries (mergeEntries entries (named attributes))
  | v =>
    if v.isCallable then
      if attributes.isEmpty then pure (.function v) else .fail .mixedCriteria
    else .fail (.notCriteria v.className)

def pairOf (position : Nat) (item : Value) : Checked (Value × Value) :=
  match item.items? with
  | none => .error (.notAPair position)
  | some [key, value] => .ok (key, value)
  | some items => .error (.pairLength position items.length)

/-- The mapping that a list of pairs makes; a key that comes again gets the new value. -/
def entriesOfPairs : (position : Nat) → List (Value × Value) → List Value →
    Checked (List (Value × Value))
  | _, entries, [] => .ok entries
  | position, entries, item :: rest => do
    let (key, value) ← pairOf position item
    key.checkKey
    entriesOfPairs (position + 1) (putEntry entries key value) rest

/-- Whether a value claims to be a mapping by an attribute `keys`, and how reading it as one fails. -/
def claimsKeys [Answers] (v : Value) : Run Unit :=
  match v with
  | .record .. | .collection .. =>
    ((v.attr "keys").bind fun keys => .fail (.notCallable keys.builtinClassName)).handle fun e =>
      if e.kind.isAttribute then pure () else .fail e
  | _ => pure ()

def toEntries [Answers] (v : Value) : Run (List (Value × Value)) :=
  match v with
  | .dict entries | .map entries => pure entries
  | v => do
    claimsKeys v
    let items ← Run.ofChecked v.items
    Run.ofChecked (entriesOfPairs 0 [] items)

def finder [Answers] (v : Value) : Run Predicate :=
  match v with
  | .search s => ofSearch s
  | v => do ofEntries (← toEntries v)

end Criteria
end RecordQuery
