import RecordQuery.Matcher
import RecordQuery.Text.Quoted
/-!
Searches: matchers under attribute names, all of which a record has to satisfy.

A search is made from a mapping by classifying its values; its keys have to be texts. The entries are
tested in their order, and the first one that does not accept settles the answer.
-/

namespace RecordQuery

/-- Matchers under attribute names. No name occurs twice. -/
abbrev Search := List (String × Matcher)

namespace Search

/-- Whether a record satisfies every matcher. An attribute that is missing counts as nothing. -/
def accepts [Answers] (record : Value) : Search → Run Bool
  | [] => pure true
  | (name, m) :: rest => do
    let actual ← record.read name
    if ← m.accepts actual.orNone then accepts record rest else pure false

def names (s : Search) : List String := s.map (·.1)

def matcher? (s : Search) (name : String) : Option Matcher :=
  (s.find? (·.1 == name)).map (·.2)

/-- The search with one more matcher: a name that is there keeps its place. -/
def put (s : Search) (name : String) (m : Matcher) : Search :=
  if s.any (·.1 == name) then s.map fun e => if e.1 == name then (name, m) else e
  else s ++ [(name, m)]

def classify : List (Value × Value) → Checked (List (Value × Matcher))
  | [] => .ok []
  | (key, expected) :: rest => do
    let m ← Matcher.ofExpected expected
    return (key, m) :: (← classify rest)

/-- A part of the path to a complaint: texts and integers are themselves, all else is printed. -/
def pathPart (key : Value) : Value :=
  match key.index? with
  | some (.ok n) => if Value.fitsPosition n then .int n else .text key.printed
  | _ =>
    match key with
    | .text s => .text s
    | v => .text v.printed

/-- The text that a value is, or what is wrong with it: bytes count as the text that they encode. -/
def textOf (v : Value) : Except Complaint String :=
  match v with
  | .text s => .ok s
  | .bytes b =>
    match Text.ofUtf8? b with
    | some s => .ok s
    | none => .error .textEncoding
  | _ => .error .textExpected

def keyIssues (entries : List (Value × Matcher)) : List Issue :=
  entries.filterMap fun (key, _) =>
    match textOf key with
    | .ok _ => none
    | .error complaint => some ⟨complaint, [pathPart key, .text "[key]"], key⟩

/-- The entries under their names; a name that is met again replaces the matcher before it. -/
def ofClassified (entries : List (Value × Matcher)) : Search :=
  entries.foldl (fun s (key, m) =>
    match textOf key with
    | .ok name => s.put name m
    | .error _ => s) []

def invalid (issues : List Issue) : Failure := .invalid ⟨"Search", issues⟩

def ofEntries (entries : List (Value × Value)) : Checked Search := do
  let classified ← classify entries
  let issues := keyIssues classified
  if issues.isEmpty then return ofClassified classified else .error (invalid issues)

def ofValue (v : Value) : Checked Search :=
  match v with
  | .search s => .ok s
  | .dict entries | .map entries => ofEntries entries
  | v => .error (invalid [⟨.dictExpected, [], v⟩])

def entries (s : Search) : List (Value × Value) := s.map fun e => (.text e.1, .matcher e.2)

end Search
end RecordQuery
