import RecordQuery.Failure.Report
/-!
Failures, by cause.

Each cause has a constructor; its kind, its message and the failure it arose from are functions of it.
-/

namespace RecordQuery

/-- Why an operation failed. -/
inductive Failure
  /-- A record, a function or an odd object raised an error of its own. -/
  | raised (kind : ErrorKind) (text : String)
  | invalid (report : Report)
  /-- A list was read with a key that is neither an index nor a slice. -/
  | notAnIndex (cls : String)
  | indexTooLarge (cls : String)
  | badSliceBound
  | badSearchBound
  | zeroStep
  | popFromEmpty
  | popOutOfRange
  | assignOutOfRange
  | outOfRange
  | positionTooLarge
  | notAnInteger (cls : String)
  | notInList (printed : String)
  | notIterable (cls : String)
  | notAssignable
  | notAssignableByStep
  | assignSize (given expected : Nat)
  | notUnpackable (cls : String)
  | unhashable (cls : String)
  | notAPair (position : Nat)
  | pairLength (position length : Nat)
  | notCallable (cls : String)
  | noAttribute (cls name : String)
  | absentKey (key : Value)
  /-- More positional arguments than a method takes; the count includes the collection. -/
  | tooManyArguments (method : String) (given : Nat)
  /-- A primitive of a function cannot be applied to its argument. -/
  | primitive (name : String)
  /-- A call of a class that cannot make a value of its argument. -/
  | construction (kind : ErrorKind) (text : String)
  /-- The end of an iteration was signalled inside a scan. -/
  | scanStopped (cause : Failure)
  | textPatternsOnly (printed : String)
  /-- A key in a wrapper that does not hold exactly one. -/
  | wrapperSize (size : Nat) (cause : Failure)
  | noFindersForBrackets (cls : String) (cause : Failure)
  | noFinders (printed : String)
  | mixedCriteria
  | notCriteria (cls : String)
  | noArgumentsTaken (name : String)
  | argumentCount (token : String) (expected given : Nat)
  | unrecognizedName (cls name : String)
  | unknownLevel (printed : String)
  | notALevel (printed : String)

namespace Failure

/-- The kind of a failure; a failed validation is an error of value of its own kind. -/
def kind : Failure → ErrorKind
  | .raised kind _ | .construction kind _ => kind
  | .invalid _ => .other "ValidationError" true
  | .notAnIndex _ | .badSliceBound | .badSearchBound | .notAnInteger _ | .notIterable _
  | .notAssignable | .notAssignableByStep | .notUnpackable _ | .unhashable _ | .notAPair _
  | .notCallable _ | .tooManyArguments .. | .primitive _ | .textPatternsOnly _ | .mixedCriteria
  | .notCriteria _ | .noArgumentsTaken _ | .argumentCount .. | .notALevel _ => .type
  | .indexTooLarge _ | .popFromEmpty | .popOutOfRange | .assignOutOfRange | .outOfRange => .index
  | .zeroStep | .notInList _ | .assignSize .. | .pairLength .. | .unknownLevel _ => .value
  | .positionTooLarge => .overflow
  | .noAttribute .. => .attribute
  | .absentKey _ => .key
  | .scanStopped _ => .runtime
  | .wrapperSize .. | .noFindersForBrackets .. | .noFinders _ => .unsupportedKey
  | .unrecognizedName .. => .unrecognizedName

/-- The message of a failure. The text of a failed key look-up is the key, printed. -/
def message : Failure → String
  | .raised kind text => if kind = .key then Text.quoted text else text
  | .construction _ text => text
  | .invalid report => report.title
  | .notAnIndex cls => "list indices must be integers or slices, not " ++ cls
  | .indexTooLarge cls => "cannot fit '" ++ cls ++ "' into an index-sized integer"
  | .badSliceBound => "slice indices must be integers or None or have an __index__ method"
  | .badSearchBound => "slice indices must be integers or have an __index__ method"
  | .zeroStep => "slice step cannot be zero"
  | .popFromEmpty => "pop from empty list"
  | .popOutOfRange => "pop index out of range"
  | .assignOutOfRange => "list assignment index out of range"
  | .outOfRange => "list index out of range"
  | .positionTooLarge => "Python int too large to convert to C ssize_t"
  | .notAnInteger cls => "'" ++ cls ++ "' object cannot be interpreted as an integer"
  | .notInList printed => printed ++ " is not in list"
  | .notIterable cls => "'" ++ cls ++ "' object is not iterable"
  | .notAssignable => "can only assign an iterable"
  | .notAssignableByStep => "must assign iterable to extended slice"
  | .assignSize given expected =>
    "attempt to assign sequence of size " ++ toString given ++ " to extended slice of size " ++
      toString expected
  | .notUnpackable cls => "Value after * must be an iterable, not " ++ cls
  | .unhashable cls => "unhashable type: '" ++ cls ++ "'"
  | .notAPair position =>
    "cannot convert dictionary update sequence element #" ++ toString position ++ " to a sequence"
  | .pairLength position length =>
    "dictionary update sequence element #" ++ toString position ++ " has length " ++
      toString length ++ "; 2 is required"
  | .notCallable cls => "'" ++ cls ++ "' object is not callable"
  | .noAttribute cls name => "'" ++ cls ++ "' object has no attribute '" ++ name ++ "'"
  | .absentKey key => key.printed
  | .tooManyArguments method given =>
    method ++ " takes from 1 to 2 positional arguments but " ++ toString given ++ " were given"
  | .primitive name => "fn " ++ name
  | .scanStopped _ => "generator raised StopIteration"
  | .textPatternsOnly printed => "Only text patterns can be matched, got " ++ printed
  | .wrapperSize size _ =>
    "Expected a single key wrapped in a list to find all matches, got " ++ toString size
  | .noFindersForBrackets cls cause =>
    message cause ++ "; configure default_finders to look up records by " ++ cls
  | .noFinders printed => "Cannot look up " ++ printed ++ ": no default finders configured"
  | .mixedCriteria => "Cannot combine a predicate with attribute criteria"
  | .notCriteria cls => "Expected a mapping, Search or callable, got " ++ cls
  | .noArgumentsTaken name => Text.quoted name ++ " does not accept arguments"
  | .argumentCount token expected given =>
    token ++ "() takes " ++ toString expected ++ " arguments (" ++ toString given ++ " given)"
  | .unrecognizedName cls name =>
    Text.quoted cls ++ " object has no attribute " ++ Text.quoted name
  | .unknownLevel printed => "Unknown level: " ++ printed
  | .notALevel printed => "Level not an integer or a valid string: " ++ printed

def cause? : Failure → Option Failure
  | .scanStopped cause | .wrapperSize _ cause | .noFindersForBrackets _ cause => some cause
  | _ => none

end Failure
end RecordQuery
