import RecordQuery.Collection.Sequence
import RecordQuery.Finders.Validation
/-!
Collections: records in order, with the default finders by which they are looked up.
-/

namespace RecordQuery

/-- An ordered collection of records. -/
structure Collection where
  cls : CollectionClass
  records : List Value
  finders : DefaultFinders

namespace Collection

def toValue (c : Collection) : Value := .collection c.cls c.records c.finders

def className (c : Collection) : String := c.cls.name

/-- A collection of a class, of the items of one value, with the finders that another one asks for. -/
def make (cls : CollectionClass) (root finders : Value) : Checked Collection := do
  let records ← root.items
  let finders ← DefaultFinders.ofValue finders
  return ⟨cls, records, finders⟩

/-- A collection of the same class with other records. The finders are carried forward, and validated
again like those of any new collection. -/
def spawn (c : Collection) (records : List Value) : Checked Collection := do
  let finders ← DefaultFinders.ofValue c.finders.toValue
  return { c with records, finders }

def withRecords (c : Collection) (records : List Value) : Collection := { c with records }

/-- What `c + other` answers: a collection of the records and the items of another value. -/
def add (c : Collection) (other : Value) : Checked Collection :=
  match other.items with
  | .ok items => c.spawn (c.records ++ items)
  | .error e =>
    if e.kind.isType then .error (.notUnpackable other.builtinClassName) else .error e

/-- What `c == other` answers. -/
def equals (c : Collection) (other : Value) : Checked Value := c.toValue.equals other

/-- What `c != other` answers. -/
def differs (c : Collection) (other : Value) : Checked Bool := do
  return !(← (← c.equals other).truth)

def contains (c : Collection) (v : Value) : Checked Bool := Value.anySame v c.records

end Collection
end RecordQuery
