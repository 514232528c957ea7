import RecordQuery.Collection.Basic
import RecordQuery.Criteria
import RecordQuery.Scan
/-!
Finding records: the first one that satisfies criteria, and all that do.
-/

namespace RecordQuery
namespace Collection

def firstWhere [Answers] (c : Collection) (p : Predicate) : Run (Option Value) :=
  Scan.guarded (Scan.first p.holds c.records)

def allWhere [Answers] (c : Collection) (p : Predicate) : Run Collection := do
  let records ← Scan.guarded (Scan.all p.holds c.records)
  Run.ofChecked (c.spawn records)

def findBy [Answers] (c : Collection) (criteria : Value) (attributes : List (String × Value)) :
    Run Value := do
  let p ← Criteria.predicate criteria attributes
  return (← c.firstWhere p).getD .none

def findAll [Answers] (c : Collection) (criteria : Value) (attributes : List (String × Value)) :
    Run Collection := do
  let p ← Criteria.predicate criteria attributes
  c.allWhere p

end Collection
end RecordQuery
