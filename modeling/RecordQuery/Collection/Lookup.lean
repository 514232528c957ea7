import RecordQuery.Collection.Find
/-!
Looking up records by a key.

A key that is a query searches directly. Any other key is tried on the default finders in order; the
first finder with a match settles the lookup. Brackets take native keys first, fall back on the lookup,
and ask for all matches when the key stands alone in a list or tuple.
-/

namespace RecordQuery
namespace Collection

/-- Fails if there are no default finders to look up a key by, with the key printed in the message: a key
that cannot be printed fails in its own way. -/
def requireFinders (c : Collection) (key : Value) : Checked (List String) :=
  if c.finders.names.isEmpty then do .error (.noFinders (← Checked.ofMethod key.repr))
  else .ok c.finders.names

/-- The first record that one of the finders matches with the key; a finder with no match, or only with
a record that is nothing, passes the key on to the next. -/
def lookupAmong [Answers] (c : Collection) (key : Value) : List String → Run Value
  | [] => pure .none
  | finder :: rest => do
    match ← c.findBy (.dict [(.text finder, key)]) [] with
    -- no record, or one that is nothing: the two cannot be told apart here
    | .none => lookupAmong c key rest
    | record =>
      Run.tell (.found key finder)
      return record

def lookupAllAmong [Answers] (c : Collection) (key : Value) : List String → Run Collection
  | [] => Run.ofChecked (c.spawn [])
  | finder :: rest => do
    let found ← c.findAll (.dict [(.text finder, key)]) []
    if found.records.isEmpty then lookupAllAmong c key rest
    else
      Run.tell (.foundAll found.records.length key finder)
      return found

def lookup [Answers] (c : Collection) (key : Value) : Run Value :=
  if key.isQuery then c.findBy key []
  else do c.lookupAmong key (← Run.ofChecked (c.requireFinders key))

def lookupAll [Answers] (c : Collection) (key : Value) : Run Collection :=
  if key.isQuery then c.findAll key []
  else do c.lookupAllAmong key (← Run.ofChecked (c.requireFinders key))

def wrapped? (key : Value) : Option (List Value) :=
  match key with
  | .list keys | .tuple keys => some keys
  | _ => none

/-- Fails if a key that is no query cannot be looked up, given how its native use failed. -/
def requireFindersFor (c : Collection) (key : Value) (native : Failure) : Checked Unit :=
  if c.finders.names.isEmpty then .error (.noFindersForBrackets key.className native) else .ok ()

def getQuery [Answers] (c : Collection) (key : Value) (native : Failure) : Run Value :=
  match wrapped? key with
  | some [inner] => do
    if inner.isQuery then return (← c.findAll inner []).toValue
    else
      Run.ofChecked (c.requireFindersFor inner native)
      return (← c.lookupAll inner).toValue
  | some keys => .fail (.wrapperSize keys.length native)
  | none => do
    if key.isQuery then c.findBy key []
    else
      Run.ofChecked (c.requireFindersFor key native)
      c.lookup key

/-- What brackets answer: a record for an index, nothing for an index out of range, a collection for a
slice, and what a lookup answers for any other key. -/
def getItem [Answers] (c : Collection) (key : Value) : Run Value :=
  match Sequence.get c.records key with
  | .ok (.item record) => pure record
  | .ok (.part records) => do return (← Run.ofChecked (c.spawn records)).toValue
  | .error e =>
    if e.kind = .index then pure .none
    else if e.kind.isType then c.getQuery key e
    else .fail e

end Collection
end RecordQuery
