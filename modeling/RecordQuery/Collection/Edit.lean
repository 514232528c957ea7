import RecordQuery.Collection.Basic
/-!
Edits: the ways to change the records of a collection.

An edit answers and leaves new records, or fails and leaves the records as they were. It never touches
the class of the collection or its default finders.
-/

namespace RecordQuery

/-- A change of the records of a collection. -/
inductive Edit
  | set (key v : Value)
  | delete (key : Value)
  | append (v : Value)
  | insert (index v : Value)
  | pop (index : Option Value)
  | remove (v : Value)
  | extend (items : Value)
  | clear
  | reverse

namespace Edit

/-- What an edit answers and the records that it leaves. Only taking a record out answers with one. -/
def apply (records : List Value) : Edit → Checked (Value × List Value)
  | set key v => do return (.none, ← Sequence.set records key v)
  | delete key => do return (.none, ← Sequence.delete records key)
  | append v => .ok (.none, Sequence.append records v)
  | insert index v => do return (.none, ← Sequence.insert records index v)
  | pop index => Sequence.pop records index
  | remove v => do return (.none, ← Sequence.remove records v)
  | extend items => do return (.none, ← Sequence.extend records items)
  | clear => .ok (.none, Sequence.clear records)
  | reverse => .ok (.none, Sequence.reverse records)

end Edit

namespace Collection

def edit (c : Collection) (e : Edit) : Checked Value × Collection :=
  match e.apply c.records with
  | .ok (answer, records) => (.ok answer, c.withRecords records)
  | .error failure => (.error failure, c)

/-- The collection after several edits; one that fails leaves it as it was. -/
def editAll (c : Collection) (edits : List Edit) : Collection :=
  edits.foldl (fun c e => (c.edit e).2) c

end Collection
end RecordQuery
