import RecordQuery.Run
import RecordQuery.Value.Sequence
/-!
Reading an attribute of a record.

A mapping is read by key, anything else by attribute. Two things are left open here, as a class: how a
collection that is itself a record answers for its attributes, which it may look up among its own
records, and what a function answers when it is called. What is proved about queries holds for all
ways to answer.
-/

namespace RecordQuery

/-- How collections among the records answer for an attribute, and how callable values answer a call
with one argument. -/
class Answers where
  attributeOf : CollectionClass → List Value → DefaultFinders → String → Run Value
  resultOf : (callable argument : Value) → Run Value

namespace Value

def field? (v : Value) (name : String) : Option Value :=
  match v with
  | .bool b =>
    if name = "real" ∨ name = "numerator" then some (.int b.toNat)
    else if name = "imag" then some (.int 0)
    else if name = "denominator" then some (.int 1)
    else .none
  | .int n =>
    if name = "real" ∨ name = "numerator" then some (.int n)
    else if name = "imag" then some (.int 0)
    else if name = "denominator" then some (.int 1)
    else .none
  | .float x =>
    if name = "real" then some (.float x)
    else if name = "imag" then some (.float (.zero false))
    else .none
  | .range start stop step =>
    if name = "start" then some (.int start)
    else if name = "stop" then some (.int stop)
    else if name = "step" then some (.int step)
    else .none
  | .slice start stop step =>
    if name = "start" then some start
    else if name = "stop" then some stop
    else if name = "step" then some step
    else .none
  | .pattern p =>
    if name = "pattern" then some (.text p.source)
    else if name = "groups" then some (.int p.groups)
    else if name = "flags" then some (.int (Pattern.flagNumber p.flags))
    else .none
  | .bytesPattern source =>
    if name = "pattern" then some (.bytes source)
    else if name = "groups" then some (.int (Pattern.bytesGroups source))
    else if name = "flags" then some (.int 0)
    else .none
  | .search entries =>
    if name = "root" then some (.dict (entries.map fun e => (.text e.1, .matcher e.2))) else .none
  | .matcher m =>
    if name = "expected" then some m.expected
    else (m.fields.find? (·.1 == name)).map (·.2)
  | _ => .none

/-- The attribute of a value. An absent one is a failure of attribute access; an object may list other
failures for it. -/
def attr [Answers] (v : Value) (name : String) : Run Value :=
  match v with
  | .record fields faults =>
    match fields.find? (·.1 == name), faults.find? (·.1 == name) with
    | some (_, value), _ => pure value
    | .none, some (_, fault) => .fail (.raised fault ("boom " ++ name))
    | .none, .none => .fail (.noAttribute v.builtinClassName name)
  | .collection cls records finders => (Answers.attributeOf cls records finders name).deeper
  | v =>
    match v.field? name with
    | some value => pure value
    | .none => .fail (.noAttribute v.builtinClassName name)

/-- What a record has under a name: an attribute, or the entry of a mapping. A record that does not
have it gives the missing value; any other failure goes through. -/
def read [Answers] (record : Value) (name : String) : Run Value :=
  match record with
  | .dict entries | .map entries => pure ((valueAt? entries (.text name)).getD .missing)
  | v => (v.attr name).handle fun e => if e.kind.isAttribute then pure .missing else .fail e

/-- What a query compares: nothing in the place of a missing value. -/
def orNone : Value → Value
  | .missing => .none
  | v => v

end Value
end RecordQuery
