import RecordQuery.Collection.Lookup
import RecordQuery.Collection.Members
import RecordQuery.Name
/-!
Dynamic names: finders by attribute names, and bare names looked up by the default finders.

A finder name compares the attributes literally with the arguments. A bare name is looked up by a
pattern that finds it in any case, with `!` literally, and with `?` it answers whether it is found.
-/

namespace RecordQuery
namespace Collection

/-- The key that a bare name is looked up by: its token, literally or as a pattern that finds it in any
case. -/
def bareKey (n : DynamicName) : Value :=
  if n.exact then .text n.token
  else
    match Pattern.compile? (String.ofList (Pattern.escape n.token.toList)) .caseless with
    | some p => .pattern p
    | none => .text n.token

/-- The criteria of a finder: each attribute equals its argument. Of an attribute that is named twice,
the last argument counts. -/
def finderCriteria (attributes : List String) (arguments : List Value) : Value :=
  .dict (mergeEntries []
    ((attributes.zip arguments).map fun a => (.text a.1, .matcher (.literal a.2))))

def callFinder [Answers] (c : Collection) (n : DynamicName) (arguments : List Value) : Run Value :=
  if arguments.length ≠ n.attributes.length then
    .fail (.argumentCount n.token n.attributes.length arguments.length)
  else do
    let criteria := finderCriteria n.attributes arguments
    Run.tell (.dynamicFinder n.name n.attributes)
    match n.reach with
    | .all => return (← c.findAll criteria []).toValue
    | .single => c.findBy criteria []

/-- The record that a bare name is found to stand for, or nothing. Without default finders nothing is
found. -/
def tokenRecord [Answers] (c : Collection) (n : DynamicName) : Run Value :=
  if n.token.isEmpty then pure .none
  else (c.lookup (bareKey n)).handle fun e =>
    if e.kind = .unsupportedKey then do
      Run.tell (.noFinders n.name)
      return .none
    else .fail e

def resolve [Answers] (c : Collection) (n : DynamicName) : Run Value := do
  let record ← c.tokenRecord n
  if n.answersWhether then return .bool (match record with | .none => false | _ => true)
  else
    match record with
    | .none => .fail (.unrecognizedName c.className n.name)
    | record => pure record

def query [Answers] (c : Collection) (name : String) (arguments : List Value) : Run Value :=
  let n := DynamicName.parse name
  if n.isFinder then c.callFinder n arguments
  else if arguments.isEmpty then c.resolve n
  else .fail (.noArgumentsTaken name)

def isPrivate (name : String) : Bool := name.toList.head? = some '_'

/-- The attribute of a collection: a member, a finder to be called, or what a bare name stands for. -/
def attr [Answers] (c : Collection) (name : String) : Run Value :=
  match c.member? name with
  | some v => pure v
  | none =>
    if isPrivate name then .fail (.noAttribute c.className name)
    else
      let n := DynamicName.parse name
      if n.isFinder then pure (.finderCall c.cls c.records c.finders name) else c.resolve n

/-- Whether an attribute can be read. A failure other than of attribute access goes through. -/
def hasAttr [Answers] (c : Collection) (name : String) : Run Bool :=
  (do let _ ← c.attr name; return true : Run Bool).handle fun e =>
    if e.kind.isAttribute then pure false else .fail e

/-- The attribute of a collection, or another value if it cannot be read. -/
def attrOr [Answers] (c : Collection) (name : String) (other : Value) : Run Value :=
  (c.attr name).handle fun e => if e.kind.isAttribute then pure other else .fail e

/-- Whether a name resolves on the collection. Any ordinary failure on the way means that it does
not. -/
def respondsTo [Answers] (c : Collection) (name : String) : Run Bool :=
  if classHas name || name == recordField then pure true
  else if isPrivate name then pure false
  else
    let n := DynamicName.parse name
    if n.isFinder || n.answersWhether then pure true
    else
      (do let _ ← c.resolve n; return true : Run Bool).handle fun e =>
        if e.kind.isOrdinary then do
          Run.tell (.noResponse c.className name e)
          return false
        else .fail e

end Collection
end RecordQuery
