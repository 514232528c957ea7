import RecordQuery.Failure.Kind
import RecordQuery.Finders.Basic
import RecordQuery.Number.Binary64
import RecordQuery.Pattern.Basic
/-!
The values that records are made of, and that queries are made of.

Records are dynamic: an attribute may hold any value, and a query may ask for any value. A value that
is compared by identity (a not-a-number, an index, an odd object) carries its identity; all other
values are what they hold.
-/

namespace RecordQuery

/-- The classes of values that a query can name. -/
inductive Kind
  | text
  | int
  | float
  | bool
  | bytes
  | list
  | tuple
  | dict
  | range
  | object
  | type
  | none
  | pattern
  | record
  | map
  | function
  | mapping
  | collection
  | search
  | matcher
  deriving DecidableEq

/-- The class of a collection: the library's own, or a plain subclass of it by name. -/
inductive CollectionClass
  | base
  | derived (name : String)
  deriving DecidableEq

/-- What an odd object sees of a value that it is compared with: a plain value itself, of any other value
the name of its class. -/
inductive Operand
  | none
  | bool (b : Bool)
  | int (n : Int)
  | float (x : Binary64)
  | text (s : String)
  | bytes (b : List UInt8)
  | pattern (p : Pattern)
  | kind (k : Kind)
  | other (className : String)

/-- An object with methods of its own, each of which may fail. -/
structure Oddity (α : Type) where
  className : String
  label : String
  /-- The answer to a comparison; none where the class of the operand is not known to it. -/
  equal : Operand → Option (Except Raised α)
  truth : Except Raised Bool
  display : Except Raised String
  printed : Except Raised String

/-- What was written to describe a function: two functions are equal when their descriptions are. -/
inductive Description
  | null
  | bool (b : Bool)
  | int (n : Int)
  | text (s : String)
  | list (items : List Description)
  | object (fields : List (String × Description))

/-- What a function of one argument does. -/
inductive Body (α : Type) : Type
  | const (value : α)
  | self
  | equals (value : α)
  | isNone
  | isInstance (kind : Kind)
  | not (f : Body α)
  | and (f g : Body α)
  | or (f g : Body α)
  | raise (kind : ErrorKind) (text : String)
  | less (value : α)
  | greater (value : α)
  | length
  | contains (value : α)
  | attribute (name : String) (f : Body α)
  | item (key : α) (f : Body α)

/-- The sorts of matchers. -/
inductive MatcherSort
  | literal
  | pattern
  | kind
  | range
  | predicate
  deriving DecidableEq

mutual

/-- A value. -/
inductive Value
  | none
  | bool (b : Bool)
  | int (n : Int)
  | float (x : Binary64)
  | text (s : String)
  | bytes (b : List UInt8)
  | list (items : List Value)
  | tuple (items : List Value)
  | dict (entries : List (Value × Value))
  /-- A mapping that is no dictionary. -/
  | map (entries : List (Value × Value))
  /-- An object with attributes; reading an absent one listed in `faults` raises that kind of error. -/
  | record (fields : List (String × Value)) (faults : List (String × ErrorKind))
  | pattern (p : Pattern)
  | bytesPattern (source : List UInt8)
  | kind (k : Kind)
  | range (start stop step : Int)
  | slice (start stop step : Value)
  | function (description : Description) (body : Body Value)
  /-- An object that can serve as an index, or fails to with the given kind of error. -/
  | index (identity : Nat) (n : Int) (fault : Option ErrorKind)
  | odd (identity : Nat) (oddity : Oddity Value)
  /-- The value of an attribute that a record does not have. -/
  | missing
  | search (entries : List (String × Matcher))
  | matcher (m : Matcher)
  | collection (cls : CollectionClass) (records : List Value) (finders : DefaultFinders)
  /-- A dynamic finder taken from a collection. -/
  | finderCall (cls : CollectionClass) (records : List Value) (finders : DefaultFinders) (name : String)
  /-- A method taken from a collection. -/
  | method (name : String)

/-- How an attribute value is tested against an expected one. -/
inductive Matcher
  | literal (value : Value)
  | pattern (p : Pattern)
  | kind (k : Kind)
  | range (start stop step : Int)
  | predicate (function : Value)

end

namespace Oddity

def text (o : Oddity α) : String :=
  match o.printed with
  | .ok text => text
  | .error _ => ""

def unprintable? (o : Oddity α) : Option Raised :=
  match o.printed with
  | .ok _ => none
  | .error fault => some fault

/-- An object that is compared by identity, is true, and is shown as it is printed. -/
def plain (label : String) : Oddity α where
  className := "Weird"
  label := label
  equal := fun _ => none
  truth := .ok true
  display := .ok ("Weird(" ++ label ++ ")")
  printed := .ok ("Weird(" ++ label ++ ")")

end Oddity

namespace CollectionClass

def name : CollectionClass → String
  | .base => "QueryableList"
  | .derived name => name

def below : CollectionClass → CollectionClass → Bool
  | .derived _, .base => true
  | _, _ => false

end CollectionClass

namespace MatcherSort

def word : MatcherSort → String
  | .literal => "literal"
  | .pattern => "pattern"
  | .kind => "type"
  | .range => "range"
  | .predicate => "predicate"

def className : MatcherSort → String
  | .literal => "LiteralMatcher"
  | .pattern => "PatternMatcher"
  | .kind => "TypeMatcher"
  | .range => "RangeMatcher"
  | .predicate => "PredicateMatcher"

def fieldName : MatcherSort → String
  | .literal => "value"
  | .pattern => "pattern"
  | .kind => "expected_type"
  | .range => "span"
  | .predicate => "function"

end MatcherSort

namespace Matcher

def expected : Matcher → Value
  | .literal v => v
  | .pattern p => .pattern p
  | .kind k => .kind k
  | .range a b c => .range a b c
  | .predicate f => f

def sort : Matcher → MatcherSort
  | .literal _ => .literal
  | .pattern _ => .pattern
  | .kind _ => .kind
  | .range .. => .range
  | .predicate _ => .predicate

end Matcher

namespace Kind

def name : Kind → String
  | .text => "str"
  | .int => "int"
  | .float => "float"
  | .bool => "bool"
  | .bytes => "bytes"
  | .list => "list"
  | .tuple => "tuple"
  | .dict => "dict"
  | .range => "range"
  | .object => "object"
  | .type => "type"
  | .none => "NoneType"
  | .pattern => "Pattern"
  | .record => "Rec"
  | .map => "Map"
  | .function => "Fn"
  | .mapping => "Mapping"
  | .collection => "QueryableList"
  | .search => "Search"
  | .matcher => "Matcher"

def qualifiedName : Kind → String
  | .pattern => "re.Pattern"
  | .record => "__main__.Rec"
  | .map => "__main__.Map"
  | .function => "__main__.Fn"
  | .mapping => "collections.abc.Mapping"
  | .collection => "pyqueryable.collections.QueryableList"
  | .search => "pyqueryable.matchers.Search"
  | .matcher => "pyqueryable.matchers.Matcher"
  | k => k.name

def className : Kind → String
  | .mapping => "ABCMeta"
  | .map => "ABCMeta"
  | .collection | .search | .matcher => "ModelMetaclass"
  | _ => "type"

end Kind

namespace Value

def className : Value → String
  | .none => "NoneType"
  | .bool _ => "bool"
  | .int _ => "int"
  | .float _ => "float"
  | .text _ => "str"
  | .bytes _ => "bytes"
  | .list _ => "list"
  | .tuple _ => "tuple"
  | .dict _ => "dict"
  | .map _ => "Map"
  | .record .. => "Rec"
  | .pattern _ | .bytesPattern _ => "Pattern"
  | .kind k => k.className
  | .range .. => "range"
  | .slice .. => "slice"
  | .function .. => "Fn"
  | .index .. => "Index"
  | .odd _ oddity => oddity.className
  | .missing => "_Missing"
  | .search _ => "Search"
  | .matcher m => m.sort.className
  | .collection cls .. => cls.name
  | .finderCall .. => "finder"
  | .method _ => "method"

/-- The name of a value's class as the built-in operations on lists and numbers write it. -/
def builtinClassName : Value → String
  | .pattern _ | .bytesPattern _ => "re.Pattern"
  | v => v.className

/-- The class of a value, except for those that no query can name. -/
def isOf (k : Kind) (v : Value) : Bool :=
  match k, v with
  | .object, _ => true
  | .text, .text _ => true
  | .int, .int _ | .int, .bool _ => true
  | .float, .float _ => true
  | .bool, .bool _ => true
  | .bytes, .bytes _ => true
  | .list, .list _ => true
  | .tuple, .tuple _ => true
  | .dict, .dict _ => true
  | .range, .range .. => true
  | .type, .kind _ => true
  | .none, .none => true
  | .pattern, .pattern _ | .pattern, .bytesPattern _ => true
  | .record, .record .. => true
  | .map, .map _ => true
  | .function, .function .. => true
  | .mapping, .dict _ | .mapping, .map _ => true
  | .collection, .collection .. => true
  | .search, .search _ => true
  | .matcher, .matcher _ => true
  | _, _ => false

def operand : Value → Operand
  | .none => .none
  | .bool b => .bool b
  | .int n => .int n
  | .float x => .float x
  | .text s => .text s
  | .bytes b => .bytes b
  | .pattern p => .pattern p
  | .kind k => .kind k
  | v => .other v.className

def isCallable : Value → Bool
  | .function .. | .kind _ | .finderCall .. | .method _ => true
  | _ => false

/-- Whether a value is itself a query: criteria by name, or a predicate on whole records. -/
def isQuery : Value → Bool
  | .dict _ | .map _ | .search _ => true
  | .kind _ => false
  | v => v.isCallable

end Value
end RecordQuery
