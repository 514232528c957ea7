import RecordQuery.Collection.Dispatch
import RecordQuery.Collection.Edit
/-!
Operations on a collection as data: edits, and questions that leave the collection as it is.

An operation is performed on a collection and gives a run, with its messages and its answer, and the
collection after it. A name that is called is read as an attribute first; a method is then performed as
the operation of its name.
-/

namespace RecordQuery

/-- What can be asked of a collection. -/
inductive Operation
  | edit (e : Edit)
  | item (key : Value)
  | length
  | items
  | itemsReversed
  | contains (v : Value)
  | add (other : Value)
  | equals (other : Value)
  | differs (other : Value)
  | truth
  | printed
  | hash
  | finders
  | index (v start stop : Value)
  | count (v : Value)
  | lookup (key : Value)
  | lookupAll (key : Value)
  | findBy (positional : List Value) (attributes : List (String × Value))
  | findAll (positional : List Value) (attributes : List (String × Value))
  /-- What the predicate of a search answers about each record. -/
  | answers (search : Value)
  | attr (name : String)
  | attrOr (name : String) (other : Value)
  | hasAttr (name : String)
  | respondsTo (name : String)
  | query (name : String) (arguments : List Value)

namespace Operation

/-- The criteria among positional arguments: none, or the one that is given. -/
def criteria (method : String) (positional : List Value) : Checked Value :=
  match positional with
  | [] => .ok .none
  | [v] => .ok v
  | many => .error (.tooManyArguments ("QueryableList." ++ method ++ "()") (many.length + 1))

/-- What a question answers about a collection; an edit answers here as if on a copy. -/
def answer [Answers] (c : Collection) : Operation → Run Value
  | edit e => .ofChecked (c.edit e).1
  | item key => c.getItem key
  | length => pure (.int c.records.length)
  | items => pure (.list c.records)
  | itemsReversed => pure (.list c.records.reverse)
  | contains v => .ofChecked (do return .bool (← c.contains v))
  | add other => .ofChecked (do return (← c.add other).toValue)
  | equals other => .ofChecked (c.equals other)
  | differs other => .ofChecked (do return .bool (← c.differs other))
  | truth => pure (.bool !c.records.isEmpty)
  | printed => .ofChecked (do return .text (← Checked.ofMethod c.toValue.repr))
  | hash => .fail (.unhashable c.className)
  | finders => pure c.finders.toValue
  | index v start stop =>
    .ofChecked (do return .int (← Sequence.indexOf c.records v start stop))
  | count v => .ofChecked (do return .int (← Sequence.count v c.records))
  | lookup key => c.lookup key
  | lookupAll key => do return (← c.lookupAll key).toValue
  | findBy positional attributes => do
    c.findBy (← Run.ofChecked (criteria "find_by" positional)) attributes
  | findAll positional attributes => do
    return (← c.findAll (← Run.ofChecked (criteria "find_all" positional)) attributes).toValue
  | answers search => do
    let p ← Criteria.finder search
    return .list (← c.records.mapM p.answer)
  | attr name => c.attr name
  | attrOr name other => c.attrOr name other
  | hasAttr name => do return .bool (← c.hasAttr name)
  | respondsTo name => do return .bool (← c.respondsTo name)
  | query name arguments => c.query name arguments

/-- Performs an operation: its run, and the collection after it. -/
def perform [Answers] (c : Collection) : Operation → Run Value × Collection
  | edit e => (.ofChecked (c.edit e).1, (c.edit e).2)
  | operation => (operation.answer c, c)

def ofMethod? (method : String) (arguments : List Value) : Option Operation :=
  match method, arguments with
  | "append", [v] => some (edit (.append v))
  | "insert", [position, v] => some (edit (.insert position v))
  | "pop", [] => some (edit (.pop none))
  | "pop", [position] => some (edit (.pop (some position)))
  | "remove", [v] => some (edit (.remove v))
  | "extend", [v] => some (edit (.extend v))
  | "clear", [] => some (edit .clear)
  | "reverse", [] => some (edit .reverse)
  | "index", [v] => some (index v (.int 0) .none)
  | "index", [v, start] => some (index v start .none)
  | "index", [v, start, stop] => some (index v start stop)
  | "count", [v] => some (count v)
  | "lookup", [key] => some (lookup key)
  | "lookup_all", [key] => some (lookupAll key)
  | "find_by", positional => some (findBy positional [])
  | "find_all", positional | "find_all_by", positional => some (findAll positional [])
  | "query", .text name :: rest => some (query name rest)
  | "responds_to", [.text name] => some (respondsTo name)
  | "__getitem__", [key] => some (item key)
  | "__setitem__", [key, v] => some (edit (.set key v))
  | "__delitem__", [key] => some (edit (.delete key))
  | "__contains__", [v] => some (contains v)
  | "__add__", [other] => some (add other)
  | "__len__", [] => some length
  | "__repr__", [] | "__str__", [] => some printed
  | _, _ => none

end Operation

namespace Collection

def call [Answers] (c : Collection) (name : String) (arguments : List Value) :
    Run Value × Collection :=
  let access := c.attr name
  match access.outcome with
  | .error _ => (access, c)
  | .ok (.method method) =>
    match Operation.ofMethod? method arguments with
    | some operation => operation.perform c
    | none => (.fail (.notCallable (Value.method method).builtinClassName), c)
  | .ok (.finderCall _ _ _ finder) => (access.bind fun _ => c.query finder arguments, c)
  | .ok v =>
    match v.isCallable, arguments with
    | true, [argument] => (access.bind fun _ => Answers.resultOf v argument, c)
    | _, _ => (access.bind fun _ => .fail (.notCallable v.builtinClassName), c)

end Collection
end RecordQuery
