import RecordQuery.Number.Shortest
import RecordQuery.Value.Basic
/-!
The printed form of values.

`printed` is the form inside containers and in messages, where texts stand in quotes; `unquoted` is the form that
a text search runs over, where a text is itself. Both can fail: an object may fail to print itself, an integer
may have too many digits, and values that are nested too deeply run out of calls. `unprintable?` says what
stops the printing first, and `repr` and `str` are the printed forms with that failure.
-/

namespace RecordQuery

def commaSeparated (parts : List String) : String := ", ".intercalate parts

def Description.word : Description → String
  | .list (.text s :: _) => s
  | .text s => s
  | _ => ""

def rangeText (start stop step : Int) : String :=
  "range(" ++ commaSeparated ([toString start, toString stop] ++
    (if step = 1 then [] else [toString step])) ++ ")"

/-- The printed form of a tuple with the given parts: one part keeps a comma. -/
def tupleText : List String → String
  | [part] => "(" ++ part ++ ",)"
  | parts => "(" ++ commaSeparated parts ++ ")"

def dictText (parts : List String) : String := "\x7b" ++ commaSeparated parts ++ "\x7d"

def Kind.printed (k : Kind) : String := "<class '" ++ k.qualifiedName ++ "'>"

def findersText (finders : List String) : String :=
  if finders.isEmpty then ""
  else ", default_finders=[" ++ commaSeparated (finders.map Text.quoted) ++ "]"

mutual

def Value.printed : Value → String
  | .none => "None"
  | .bool b => if b then "True" else "False"
  | .int n => toString n
  | .float x => x.text
  | .text s => Text.quoted s
  | .bytes b => Text.quotedBytes b
  | .list items => "[" ++ commaSeparated (printedAll items) ++ "]"
  | .tuple items => tupleText (printedAll items)
  | .dict entries => dictText (printedEntries entries)
  | .map entries => "Map(" ++ dictText (printedEntries entries) ++ ")"
  | .record fields _ => "Rec(" ++ commaSeparated (printedFields fields) ++ ")"
  | .pattern p => p.text
  | .bytesPattern source => Pattern.bytesText source
  | .kind k => k.printed
  | .range start stop step => rangeText start stop step
  | .slice start stop step =>
    "slice(" ++ commaSeparated [start.printed, stop.printed, step.printed] ++ ")"
  | .function description _ => "Fn(" ++ description.word ++ ")"
  | .index _ n _ => "Index(" ++ toString n ++ ")"
  | .odd _ oddity => oddity.text
  | .missing => "MISSING"
  | .search entries => "Search(root=" ++ dictText (printedMatchers entries) ++ ")"
  | .matcher m => m.printed
  | .collection cls records finders =>
    cls.name ++ "([" ++ commaSeparated (printedAll records) ++ "]" ++ findersText finders.names ++ ")"
  | .finderCall _ _ _ name => "<finder " ++ name ++ ">"
  | .method name => "<method " ++ name ++ ">"

def printedAll : List Value → List String
  | [] => []
  | v :: rest => v.printed :: printedAll rest

def printedEntries : List (Value × Value) → List String
  | [] => []
  | (k, v) :: rest => (k.printed ++ ": " ++ v.printed) :: printedEntries rest

def printedFields : List (String × Value) → List String
  | [] => []
  | (name, v) :: rest => (name ++ "=" ++ v.printed) :: printedFields rest

def printedMatchers : List (String × Matcher) → List String
  | [] => []
  | (name, m) :: rest => (Text.quoted name ++ ": " ++ m.printed) :: printedMatchers rest

def Matcher.printed : Matcher → String
  | .literal v => "LiteralMatcher(kind='literal', value=" ++ v.printed ++ ")"
  | .pattern p => "PatternMatcher(kind='pattern', pattern=" ++ p.text ++ ")"
  | .kind k => "TypeMatcher(kind='type', expected_type=" ++ k.printed ++ ")"
  | .range start stop step =>
    "RangeMatcher(kind='range', span=" ++ rangeText start stop step ++ ")"
  | .predicate f => "PredicateMatcher(kind='predicate', function=" ++ f.printed ++ ")"

end

/-- The text of a value: a text itself, the fields of a matcher or search, else the printed form. -/
def Value.unquoted : Value → String
  | .text s => s
  | .matcher m =>
    "kind=" ++ Text.quoted m.sort.word ++ " " ++ m.sort.fieldName ++ "=" ++ m.expected.printed
  | .search entries => "root=" ++ dictText (printedMatchers entries)
  | v => v.printed

/-! ## What stops the printing -/

/-- How many calls may be open at a time. -/
def callLimit : Nat := 1000

/-- The most digits of an integer that is printed. -/
def digitLimit : Nat := 4300

def Raised.tooDeep : Raised :=
  ⟨.other "RecursionError" true, "maximum recursion depth exceeded while getting the repr of an object"⟩

def Raised.tooManyDigits : Raised :=
  ⟨.value, "Exceeds the limit (4300 digits) for integer string conversion; " ++
    "use sys.set_int_max_str_digits() to increase the limit"⟩

def unprintableDigits? (numbers : List Int) : Option Raised :=
  if numbers.any fun n => digitLimit < (Nat.toDigits 10 n.natAbs).length then some .tooManyDigits else none

/-- What stops the printing of something that takes a number of calls, given how many may still be opened. -/
def withinCalls (calls room : Nat) (inside : Nat → Option Raised) : Option Raised :=
  if room < calls then some .tooDeep else inside (room - calls)

mutual

/-- What stops the printing of a value first, if anything does, given how many calls may still be opened. A
class that prints its objects by a method takes three: for the object, the method, and what it holds. -/
def Value.unprintable? (v : Value) (room : Nat) : Option Raised :=
  match v with
  | .int n | .index _ n _ => withinCalls 1 room fun _ => unprintableDigits? [n]
  | .list items | .tuple items => withinCalls 1 room fun room => unprintableAmong? items room
  | .dict entries => withinCalls 1 room fun room => unprintableEntries? entries room
  | .map entries => withinCalls 3 room fun room => unprintableEntries? entries room
  | .record fields _ => withinCalls 3 room fun room => unprintableFields? fields room
  | .range start stop step => withinCalls 1 room fun _ => unprintableDigits? [start, stop, step]
  | .slice start stop step =>
    withinCalls 1 room fun room =>
      (start.unprintable? room).or ((stop.unprintable? room).or (step.unprintable? room))
  | .odd _ oddity => withinCalls 1 room fun _ => oddity.unprintable?
  | .search entries => withinCalls 3 room fun room => unprintableMatchers? entries room
  | .matcher m => withinCalls 3 room fun room => m.unprintable? room
  | .collection _ records _ => withinCalls 3 room fun room => unprintableAmong? records room
  | _ => withinCalls 1 room fun _ => .none

def unprintableAmong? (items : List Value) (room : Nat) : Option Raised :=
  match items with
  | [] => none
  | v :: rest => (v.unprintable? room).or (unprintableAmong? rest room)

def unprintableEntries? (entries : List (Value × Value)) (room : Nat) : Option Raised :=
  match entries with
  | [] => none
  | (k, v) :: rest =>
    (k.unprintable? room).or ((v.unprintable? room).or (unprintableEntries? rest room))

def unprintableFields? (fields : List (String × Value)) (room : Nat) : Option Raised :=
  match fields with
  | [] => none
  | (_, v) :: rest => (v.unprintable? room).or (unprintableFields? rest room)

def unprintableMatchers? (entries : List (String × Matcher)) (room : Nat) : Option Raised :=
  match entries with
  | [] => none
  | (_, m) :: rest => (m.unprintable? room).or (unprintableMatchers? rest room)

def Matcher.unprintable? (m : Matcher) (room : Nat) : Option Raised :=
  match m with
  | .literal v | .predicate v => v.unprintable? room
  | .range start stop step => unprintableDigits? [start, stop, step]
  | .pattern _ | .kind _ => none

end

/-- A text that stands for a value, or what stops the printing of the value. -/
def Value.unlessUnprintable (v : Value) (text : String) : Except Raised String :=
  match v.unprintable? callLimit with
  | some fault => .error fault
  | .none => .ok text

def Value.repr (v : Value) : Except Raised String := v.unlessUnprintable v.printed

/-- The text of a value, or why it has none. An odd object may be shown though it cannot be printed. -/
def Value.str : Value → Except Raised String
  | .text s => .ok s
  | .odd _ oddity => oddity.display
  | v => v.unlessUnprintable v.unquoted

def Value.display (v : Value) : String :=
  match v.str with
  | .ok s => s
  | .error _ => "<unprintable " ++ v.className ++ " object>"

end RecordQuery
