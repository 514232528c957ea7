import RecordQuery.Collection.Dispatch
import RecordQuery.Number.Decimal
/-!
Calling a class with one argument: the value that it makes of the argument.
-/

namespace RecordQuery
namespace Kind

def refuse (kind : ErrorKind) (text : String) : Checked α := .error (.construction kind text)

def asciiText? (b : List UInt8) : Option String :=
  if b.all (·.toNat < 128) then some (String.ofList (b.map fun n => Char.ofNat n.toNat)) else .none

def integerOf (v : Value) : Checked Int :=
  let unreadable := refuse .value ("invalid literal for int() with base 10: " ++ v.printed)
  match v with
  | .text s => ((Decimal.readInt? s).map .ok).getD unreadable
  | .bytes b => (((asciiText? b).bind Decimal.readInt?).map .ok).getD unreadable
  | .float x =>
    match x with
    | .nan _ => refuse .value "cannot convert float NaN to integer"
    | .infinite _ => refuse .overflow "cannot convert float infinity to integer"
    | .finite .. => .ok (x.truncate?.getD 0)
  | v =>
    v.index?.getD (refuse .type
      ("int() argument must be a string, a bytes-like object or a real number, not '" ++
        v.builtinClassName ++ "'"))

def numberOf (v : Value) : Checked Binary64 :=
  let unreadable := refuse .value ("could not convert string to float: " ++ v.printed)
  match v with
  | .text s => ((Decimal.readBinary64? s 0).map .ok).getD unreadable
  | .bytes b => (((asciiText? b).bind (Decimal.readBinary64? · 0)).map .ok).getD unreadable
  | .float x => .ok x
  | v =>
    match v.index? with
    | some n => do
      match Binary64.ofInt (← n) with
      | .infinite _ => refuse .overflow "int too large to convert to float"
      | x => return x
    | .none =>
      refuse .type
        ("float() argument must be a string or a real number, not '" ++ v.builtinClassName ++ "'")

def byteOf (v : Value) : Checked UInt8 :=
  match v.index? with
  | some n => do
    let n ← n
    if 0 ≤ n ∧ n < 256 then return UInt8.ofNat n.toNat
    else refuse .value "bytes must be in range(0, 256)"
  | .none => .error (.notAnInteger v.builtinClassName)

/-- The bytes that a value gives: its own, as many zeros as a number says, or one for each item. -/
def bytesOf (v : Value) : Checked (List UInt8) :=
  match v with
  | .bytes b => .ok b
  | .text _ => refuse .type "string argument without an encoding"
  | v =>
    match v.index? with
    | some n => do
      let n ← n
      if n < 0 then refuse .value "negative count"
      else if !Value.fitsPosition n then .error (.indexTooLarge v.builtinClassName)
      else return List.replicate n.toNat 0
    | .none =>
      match v.items? with
      | some items => items.mapM byteOf
      | .none => refuse .type ("cannot convert '" ++ v.builtinClassName ++ "' object to bytes")

def rangeNumber (v : Value) : Checked Int :=
  v.index?.getD (.error (.notAnInteger v.builtinClassName))

/-- The range that one to three numbers give: its end, its start and end, or those and its step. -/
def rangeOf (numbers : List Value) : Checked Value := do
  match ← numbers.mapM rangeNumber with
  | [stop] => return .range 0 stop 1
  | [start, stop] => return .range start stop 1
  | [start, stop, step] =>
    if step = 0 then refuse .value "range() arg 3 must not be zero" else return .range start stop step
  | _ => refuse .type ("range expected at most 3 arguments, got " ++ toString numbers.length)

def of (v : Value) : Kind :=
  ([Kind.none, .bool, .int, .float, .text, .bytes, .list, .tuple, .dict, .map, .range, .type, .pattern,
    .record, .function, .collection, .search, .matcher].find? fun k => v.isOf k).getD .object

def construct [Answers] (k : Kind) (v : Value) : Run Value :=
  match k with
  | .text => .ofChecked (do return .text (← Checked.ofMethod v.str))
  | .bool => .ofChecked (do return .bool (← v.truth))
  | .int => .ofChecked (do return .int (← integerOf v))
  | .float => .ofChecked (do return .float (← numberOf v))
  | .bytes => .ofChecked (do return .bytes (← bytesOf v))
  | .list => .ofChecked (do return .list (← v.items))
  | .tuple => .ofChecked (do return .tuple (← v.items))
  | .dict => do return .dict (← Criteria.toEntries v)
  | .map => do return .map (← Criteria.toEntries v)
  | .range => .ofChecked (rangeOf [v])
  | .type => pure (.kind (of v))
  | .none => .ofChecked (refuse .type "NoneType takes no arguments")
  | .object => .ofChecked (refuse .type "object() takes no arguments")
  | .pattern => .ofChecked (refuse .type "cannot create 're.Pattern' instances")
  | .mapping => .ofChecked (refuse .type "Mapping() takes no arguments")
  | .matcher =>
    .ofChecked (refuse .type
      "Can't instantiate abstract class Matcher with abstract methods _check, expected")
  | .collection => .ofChecked (do return (← Collection.make .base v .none).toValue)
  | .search =>
    match v with
    | .search _ => .fail (Search.invalid [⟨.dictExpected, [], v⟩])
    | v => .ofChecked (do return .search (← Search.ofValue v))
  | .record | .function => .ofChecked (refuse .type (k.name ++ "() takes no arguments"))

end Kind
end RecordQuery
