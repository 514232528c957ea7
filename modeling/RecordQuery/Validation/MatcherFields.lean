import RecordQuery.Matcher
/-!
Matchers made from named fields, with a complaint about every field that does not fit.
-/

namespace RecordQuery
namespace MatcherSort

def invalid (sort : MatcherSort) (issues : List Issue) : Failure :=
  .invalid ⟨sort.className, issues⟩

def issue (complaint : Complaint) (field : String) (input : Value) : Issue :=
  ⟨complaint, [.text field], input⟩

def field? (fields : List (String × Value)) (name : String) : Option Value :=
  (fields.find? (·.1 == name)).map (·.2)

/-- The complaint about the word for the sort, if it is given and is another one. -/
def wordIssues (sort : MatcherSort) (fields : List (String × Value)) : List Issue :=
  match field? fields "kind" with
  | none => []
  | some v =>
    match v with
    | .text s => if s = sort.word then [] else [issue (.wordExpected sort.word) "kind" v]
    | v => [issue (.wordExpected sort.word) "kind" v]

def patternOf (v : Value) : Except Complaint Pattern :=
  match v with
  | .pattern p => .ok p
  | .text source =>
    match Pattern.compile? source .none with
    | some p => .ok p
    | none => .error .patternSource
  | .bytes _ | .bytesPattern _ => .error .textPatternExpected
  | _ => .error .patternExpected

def ofValue (sort : MatcherSort) (v : Value) : Except Complaint Matcher :=
  match sort with
  | .literal => .ok (.literal v)
  | .pattern => (patternOf v).map .pattern
  | .kind =>
    match v with
    | .kind k => .ok (.kind k)
    | _ => .error .classExpected
  | .range =>
    match v with
    | .range start stop step => .ok (.range start stop step)
    | _ => .error .rangeExpected
  | .predicate => if v.isCallable then .ok (.predicate v) else .error .callableExpected

/-- The matcher of a sort whose fields are given, or a complaint about its expected value: only a
literal has one to fall back on. -/
def ofField (sort : MatcherSort) (fields : List (String × Value)) : Except Issue Matcher :=
  match field? fields sort.fieldName with
  | some v => (sort.ofValue v).mapError fun complaint => issue complaint sort.fieldName v
  | none =>
    if sort = .literal then .ok (.literal .none)
    else .error (issue .fieldMissing sort.fieldName
      (.dict (fields.map fun f => (.text f.1, f.2))))

def make (sort : MatcherSort) (fields : List (String × Value)) : Checked Matcher :=
  match wordIssues sort fields, sort.ofField fields with
  | [], .ok m => .ok m
  | issues, .ok _ => .error (sort.invalid issues)
  | issues, .error last => .error (sort.invalid (issues ++ [last]))

end MatcherSort

def frozen (title field : String) (v : Value) : Failure :=
  .invalid ⟨title, [⟨.frozen, [.text field], v⟩]⟩

end RecordQuery
