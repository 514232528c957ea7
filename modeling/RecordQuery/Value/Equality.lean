import RecordQuery.Value.Truth
/-!
Equality of values.

`a == b` asks `a` first; where the class of `a` does not know the class of `b`, it asks `b`; where
neither knows the other, they are equal only if they are the same object. The answer is a value and
need not be a truth value, because odd objects answer what they like, or fail.

Inside containers two items count as equal when they are the same object or `==` answers something
true. The comparison is a recursion on one operand, with a flag that says whether that operand is the
right-hand one.
-/

namespace RecordQuery

def Description.number? : Description → Option Int
  | .bool b => some b.toNat
  | .int n => some n
  | _ => none

mutual

/-- Whether two descriptions are the same; a truth value is the same as the number it counts for, and
the order of the fields of an object does not matter. -/
def Description.same : Description → Description → Bool
  | .null, .null => true
  | .text s, .text t => s == t
  | .list xs, .list ys => sameDescriptions xs ys
  | .object xs, .object ys => xs.length == ys.length && sameFields xs ys
  | .bool a, b => b.number? == some (a.toNat : Int)
  | .int a, b => b.number? == some a
  | _, _ => false

def sameDescriptions : List Description → List Description → Bool
  | [], [] => true
  | x :: xs, y :: ys => x.same y && sameDescriptions xs ys
  | _, _ => false

/-- Whether every field has the same description as the field of that name in `ys`. -/
def sameFields : List (String × Description) → List (String × Description) → Bool
  | [], _ => true
  | (name, x) :: xs, ys =>
    (match ys.find? (·.1 == name) with
      | some (_, y) => x.same y
      | none => false) && sameFields xs ys

end

/-- What an odd object answers when it is compared with a value; `none` when it does not know the class of
the value. -/
def Oddity.answer? (o : Oddity Value) (other : Value) : Option (Checked Value) :=
  (o.equal other.operand).map Checked.ofMethod

def sameRange (a b c : Int) (d e f : Int) : Bool :=
  let n := rangeLength a b c
  n == rangeLength d e f && (n == 0 || (a == d && (n == 1 || c == f)))

/-- Whether two values are one object, for the values that have an identity of their own. -/
def Value.identical : Value → Value → Bool
  | .float (.nan i), .float (.nan j) => i == j
  | .odd i _, .odd j _ => i == j
  | .index i _ _, .index j _ _ => i == j
  | _, _ => false

/-- Equality of values whose comparison does not look inside them; `none` when the classes do not know
each other. -/
def Value.equalLeaf? : Value → Value → Option Bool
  | .none, .none => some true
  | .missing, .missing => some true
  | .bool a, .bool b => some (a == b)
  | .bool a, .int b => some ((a.toNat : Int) == b)
  | .int a, .bool b => some (a == (b.toNat : Int))
  | .int a, .int b => some (a == b)
  | .bool a, .float b => some (b.orderInt? a.toNat == some .eq)
  | .float a, .bool b => some (a.orderInt? b.toNat == some .eq)
  | .int a, .float b => some (b.orderInt? a == some .eq)
  | .float a, .int b => some (a.orderInt? b == some .eq)
  | .float a, .float b => some (a.order? b == some .eq)
  | .text a, .text b => some (a == b)
  | .bytes a, .bytes b => some (a == b)
  | .pattern p, .pattern q => some (p.same q)
  | .bytesPattern p, .bytesPattern q => some (p == q)
  | .pattern _, .bytesPattern _ => some false
  | .bytesPattern _, .pattern _ => some false
  | .kind k, .kind l => some (k == l)
  | .range a b c, .range d e f => some (sameRange a b c d e f)
  | .function a _, .function b _ => some (a.same b)
  | _, _ => .none

/-- The answer of the odd objects among two operands, the left one first. -/
def Value.oddAnswer? : Value → Value → Option (Checked Value)
  | .odd i a, .odd j b => (a.answer? (.odd j b)).or (b.answer? (.odd i a))
  | .odd _ a, v => a.answer? v
  | v, .odd _ b => b.answer? v
  | _, _ => .none

/-- `a == b` for operands whose comparison does not look inside them: the answer of the classes, else
of an odd object, else whether they are one object. -/
def Value.equalShallow (a b : Value) : Checked Value :=
  match a.equalLeaf? b with
  | some answer => .ok (.bool answer)
  | .none =>
    match a.oddAnswer? b with
    | some answer => answer
    | .none => .ok (.bool (a.identical b))

def Value.sameKeyLeaf (a b : Value) : Bool := (a.equalLeaf? b).getD false || a.identical b

mutual

/-- Whether two values are the same key of a mapping: keys are plain values and tuples of them. -/
def Value.sameKey : Value → Value → Bool
  | .tuple xs, .tuple ys => sameKeys xs ys
  | a, b => a.sameKeyLeaf b

def sameKeys : List Value → List Value → Bool
  | [], [] => true
  | x :: xs, y :: ys => x.sameKey y && sameKeys xs ys
  | _, _ => false

end

def valueAt? (entries : List (Value × Value)) (key : Value) : Option Value :=
  (entries.find? fun e => e.1.sameKey key).map (·.2)

abbrev Comparison := Value → Checked Bool

/-- Compares the entries that have the key of a given entry; a key that is absent settles it. -/
def compareByKey (comparisons : List (Value × Comparison)) (key value : Value) : Checked Bool :=
  match comparisons.find? fun c => c.1.sameKey key with
  | some (_, comparison) => comparison value
  | none => .ok false

/-- Whether all entries are found and equal, in order, up to the first that is not. -/
def allByKey (comparisons : List (Value × Comparison)) : List (Value × Value) → Checked Bool
  | [] => .ok true
  | (key, value) :: rest => do
    if ← compareByKey comparisons key value then allByKey comparisons rest else return false

/-- Whether the comparisons hold of the values under their keys, in order, up to the first that does
not. -/
def allFoundIn (entries : List (Value × Value)) : List (Value × Comparison) → Checked Bool
  | [] => .ok true
  | (key, comparison) :: rest =>
    match valueAt? entries key with
    | some value => do if ← comparison value then allFoundIn entries rest else return false
    | none => .ok false

/-- Whether all entries of a search are found and equal, in order, up to the first that is not. -/
def allByName (comparisons : List (String × (Matcher → Checked Bool))) :
    List (String × Matcher) → Checked Bool
  | [] => .ok true
  | (name, m) :: rest =>
    match comparisons.find? (·.1 == name) with
    | some (_, comparison) => do if ← comparison m then allByName comparisons rest else return false
    | none => .ok false

/-- Whether the comparisons hold of the matchers under their names, in order, up to the first that
does not. -/
def allNamedIn (entries : List (String × Matcher)) :
    List (String × (Matcher → Checked Bool)) → Checked Bool
  | [] => .ok true
  | (name, comparison) :: rest =>
    match entries.find? (·.1 == name) with
    | some (_, m) => do if ← comparison m then allNamedIn entries rest else return false
    | none => .ok false

/-- Whether two items count as equal, given the answer of their comparison, which is not asked for
when they are one object. -/
def settle (a b : Value) (answer : Checked Value) : Checked Bool :=
  if a.identical b then .ok true else do (← answer).truth

mutual

/-- `a == b`, or `b == a` when `swapped`. -/
def Value.equate (swapped : Bool) : Value → Value → Checked Value
  | .list xs, .list ys => do
    if xs.length != ys.length then return .bool false
    else return .bool (← compareItems swapped xs ys)
  | .list xs, .collection _ ys _ => do
    if xs.length != ys.length then return .bool false
    else return .bool (← compareItems true xs ys)
  | .collection _ xs _, .list ys => do
    if xs.length != ys.length then return .bool false
    else return .bool (← compareItems false xs ys)
  -- of two collections, the one of a subclass is asked first
  | .collection c xs _, .collection d ys _ => do
    if xs.length != ys.length then return .bool false
    else return .bool (← compareItems
      (if d.below c then true else if c.below d then false else swapped) xs ys)
  -- tuples are compared as far as both go before their lengths are
  | .tuple xs, .tuple ys => do return .bool (← compareItems swapped xs ys)
  | .slice a b c, .slice d e f => do
    if ← settle a d (a.equate swapped d) then
      if ← settle b e (b.equate swapped e) then return .bool (← settle c f (c.equate swapped f))
      else return .bool false
    else return .bool false
  | .record xs _, .record ys _ => do
    if xs.length != ys.length then return .bool false
    else return .bool (← compareFields swapped xs ys)
  | .dict xs, .dict ys | .map xs, .map ys => do
    if xs.length != ys.length then return .bool false
    else if swapped then return .bool (← allByKey (comparisons false xs) ys)
    else return .bool (← allFoundIn ys (comparisons true xs))
  -- of a dictionary and a mapping of another class, the latter compares
  | .dict xs, .map ys => do
    if xs.length != ys.length then return .bool false
    else return .bool (← allByKey (comparisons false xs) ys)
  | .map xs, .dict ys => do
    if xs.length != ys.length then return .bool false
    else return .bool (← allFoundIn ys (comparisons true xs))
  | .search xs, .search ys => do
    if xs.length != ys.length then return .bool false
    else if swapped then return .bool (← allNamedIn ys (matcherComparisons true xs))
    else return .bool (← allByName (matcherComparisons false xs) ys)
  | .matcher m, .matcher n => do return .bool (← m.equate swapped n)
  | a, b => if swapped then b.equalShallow a else a.equalShallow b
termination_by structural a => a

/-- Whether the items of two lists are equal as far as both go, compared in order, and then the
lengths are the same. -/
def compareItems (swapped : Bool) : List Value → List Value → Checked Bool
  | [], ys => .ok ys.isEmpty
  | _ :: _, [] => .ok false
  | x :: xs, y :: ys => do
    if ← settle x y (x.equate swapped y) then compareItems swapped xs ys else return false
termination_by structural xs => xs

def compareFields (swapped : Bool) :
    List (String × Value) → List (String × Value) → Checked Bool
  | [], ys => .ok ys.isEmpty
  | _ :: _, [] => .ok false
  | (m, x) :: xs, (n, y) :: ys =>
    if m != n then .ok false
    else do if ← settle x y (x.equate swapped y) then compareFields swapped xs ys else return false
termination_by structural xs => xs

def comparisons (swapped : Bool) : List (Value × Value) → List (Value × Comparison)
  | [] => []
  | (key, x) :: xs => (key, fun y => settle x y (x.equate swapped y)) :: comparisons swapped xs
termination_by structural xs => xs

def matcherComparisons (swapped : Bool) :
    List (String × Matcher) → List (String × (Matcher → Checked Bool))
  | [] => []
  | (name, x) :: xs => (name, fun y => x.equate swapped y) :: matcherComparisons swapped xs
termination_by structural xs => xs

def Matcher.equate (swapped : Bool) : Matcher → Matcher → Checked Bool
  | .literal v, .literal w => settle v w (v.equate (!swapped) w)
  | .predicate f, .predicate g => settle f g (f.equate (!swapped) g)
  | .pattern p, .pattern q => .ok (p.same q)
  | .kind k, .kind l => .ok (k == l)
  | .range a b c, .range d e f => .ok (sameRange a b c d e f)
  | _, _ => .ok false
termination_by structural m => m

end

namespace Value

/-- What `a == b` answers. -/
def equals (a b : Value) : Checked Value := a.equate false b

/-- Whether `a == b` answers something true. -/
def isEqual (a b : Value) : Checked Bool := do (← a.equals b).truth

/-- Whether two values count as equal items of a container: one object, or `a == b`. -/
def sameItem (a b : Value) : Checked Bool := settle a b (a.equals b)

end Value
end RecordQuery
