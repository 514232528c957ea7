import RecordQuery.Function.Construct
import RecordQuery.Function.Item
import RecordQuery.Value.Order
/-!
What functions answer, and how collections among the records answer for their attributes.

Both refer to each other: a function may read attributes and items of a collection, and reading an item
of a collection may call functions. The knot is tied by depth: a value can only ask values inside it,
so the depth of the values at hand bounds how often one question leads to another.
-/

namespace RecordQuery

/-- The failure of a primitive: errors of type, attribute access and item look-up become one of its
own. -/
def primitiveFailure (name : String) (e : Failure) : Failure :=
  if e.kind.isType || e.kind.isAttribute || e.kind.isLookup then .primitive name else e

def primitive (name : String) (r : Run α) : Run α := r.mapFailure (primitiveFailure name)

def Body.run [Answers] (x : Value) : Body Value → Run Value
  | .const v => pure v
  | .self => pure x
  | .equals v => .ofChecked (x.equals v)
  | .isNone => pure (.bool (match x with | .none => true | _ => false))
  | .isInstance k => pure (.bool (x.isOf k))
  | .not f => do
    let answer ← f.run x
    return .bool !(← Run.ofChecked answer.truth)
  | .and f g => do
    let answer ← f.run x
    if ← Run.ofChecked answer.truth then g.run x else return answer
  | .or f g => do
    let answer ← f.run x
    if ← Run.ofChecked answer.truth then return answer else g.run x
  | .raise kind text => .fail (.raised kind text)
  | .less v => primitive "lt" (.ofChecked (do return .bool ((← x.order v) == some .lt)))
  | .greater v => primitive "gt" (.ofChecked (do return .bool ((← x.order v) == some .gt)))
  | .length =>
    primitive "len" (.ofChecked (match x.length? with
      | some n => do return .int (← n)
      | none => .error unordered))
  | .contains v => primitive "has" (.ofChecked (do return .bool (← x.holds v)))
  | .attribute name f => do
    let v ← primitive "attr" (x.attr name)
    f.run v
  | .item key f => do
    let v ← primitive "item" (x.item key)
    f.run v

def Value.callOne [Answers] (callable argument : Value) : Run Value :=
  match callable with
  | .function _ body => body.run argument
  | .kind k => k.construct argument
  | .finderCall cls records finders name =>
    (Collection.mk cls records finders).query name [argument]
  | v => .fail (.notCallable v.builtinClassName)

mutual

def Value.depth : Value → Nat
  | .list items | .tuple items => depthOfAll items
  | .dict entries | .map entries => depthOfEntries entries
  | .record fields _ => depthOfFields fields
  | .slice start stop step => max start.depth (max stop.depth step.depth)
  | .function _ body => body.depth + 1
  | .search entries => depthOfMatchers entries
  | .matcher m => m.depth
  | .collection _ records _ | .finderCall _ records _ _ => depthOfAll records + 1
  | _ => 0

def Body.depth : Body Value → Nat
  | .const v | .equals v | .less v | .greater v | .contains v => v.depth
  | .self | .isNone | .isInstance _ | .raise .. | .length => 0
  | .not f => f.depth
  | .and f g | .or f g => max f.depth g.depth
  | .attribute _ f => f.depth + 1
  | .item key f => max key.depth f.depth + 1

def depthOfAll : List Value → Nat
  | [] => 0
  | v :: rest => max v.depth (depthOfAll rest)

def depthOfEntries : List (Value × Value) → Nat
  | [] => 0
  | (k, v) :: rest => max (max k.depth v.depth) (depthOfEntries rest)

def depthOfFields : List (String × Value) → Nat
  | [] => 0
  | (_, v) :: rest => max v.depth (depthOfFields rest)

def depthOfMatchers : List (String × Matcher) → Nat
  | [] => 0
  | (_, m) :: rest => max m.depth (depthOfMatchers rest)

def Matcher.depth : Matcher → Nat
  | .literal v | .predicate v => v.depth
  | _ => 0

end

def tooDeep : Failure := .raised (.other "RecursionError" true) "maximum recursion depth exceeded"

/-- Answers that lead to at most `n` further questions, one inside the other. -/
@[reducible] def Answers.within : Nat → Answers
  | 0 => ⟨fun _ _ _ _ => .fail tooDeep, fun _ _ => .fail tooDeep⟩
  | n + 1 =>
    let inner := within n
    ⟨fun cls records finders name => @Collection.attr inner ⟨cls, records, finders⟩ name,
      fun callable argument => @Value.callOne inner callable argument⟩

instance : Answers where
  attributeOf cls records finders name :=
    (Answers.within (depthOfAll records + 1)).attributeOf cls records finders name
  resultOf callable argument :=
    (Answers.within (callable.depth + argument.depth + 1)).resultOf callable argument

end RecordQuery
