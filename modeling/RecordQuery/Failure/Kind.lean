/-!
The kinds of errors.

Records, functions and odd values may raise errors of any kind; a query has to know which kinds it
catches. The kinds that are caught somewhere have a constructor of their own.
-/

namespace RecordQuery

/-- The kind of an error. -/
inductive ErrorKind
  | type
  | value
  | attribute
  | index
  | key
  | lookup
  | runtime
  | overflow
  | stopIteration
  /-- A key cannot be used on a collection: also an error of type. -/
  | unsupportedKey
  /-- A dynamic name cannot be resolved: also an error of attribute access. -/
  | unrecognizedName
  /-- Any error of queries. -/
  | query
  /-- Any other kind by name; an ordinary one is not a request to stop the program. -/
  | other (name : String) (ordinary : Bool)
  deriving DecidableEq

namespace ErrorKind

def isType : ErrorKind → Bool
  | .type | .unsupportedKey => true
  | _ => false

def isAttribute : ErrorKind → Bool
  | .attribute | .unrecognizedName => true
  | _ => false

def isLookup : ErrorKind → Bool
  | .lookup | .index | .key => true
  | _ => false

/-- Whether errors of this kind are caught by a handler for all ordinary errors. -/
def isOrdinary : ErrorKind → Bool
  | .other _ ordinary => ordinary
  | _ => true

end ErrorKind

/-- An error that an object raises by itself. -/
structure Raised where
  kind : ErrorKind
  text : String

end RecordQuery
