import RecordQuery.Search
/-!
Validation of a tuple of texts: what is accepted as one, the constraints on each text, and the
complaints, at most one for each text.
-/

namespace RecordQuery

/-- Constraints on a text. -/
structure TextRule where
  least : Option Nat
  most : Option Nat
  /-- A pattern that has to match somewhere in the text. -/
  pattern : Option String

/-- A pattern in which the end of a line is the end of the text only, also before a last line feed. -/
def Node.strictEnd : Node → Node
  | .place .lineEnd => .place .textEnd
  | .seq a b => .seq a.strictEnd b.strictEnd
  | .alt a b => .alt a.strictEnd b.strictEnd
  | .capture index body => .capture index body.strictEnd
  | .scoped on off body => .scoped on off body.strictEnd
  | .repeated min max greed body => .repeated min max greed body.strictEnd
  | .ahead negated body => .ahead negated body.strictEnd
  | .behind negated width body => .behind negated width body.strictEnd
  | .atomic body => .atomic body.strictEnd
  | .conditional index yes no => .conditional index yes.strictEnd no.strictEnd
  | node => node

namespace TextRule

def patternHolds (source text : String) : Bool :=
  match Pattern.compile? source .none with
  | some p => p.tree.strictEnd.foundIn p.flags text.toList
  | none => false

/-- What a text that is there violates first: least length, greatest length, pattern. -/
def violation? (rule : TextRule) (s : String) : Option Complaint :=
  match rule.least.filter (s.length < ·) with
  | some least => some (.textTooShort least)
  | none =>
    match rule.most.filter (· < s.length) with
    | some most => some (.textTooLong most)
    | none => (rule.pattern.filter fun p => !patternHolds p s).map .textPattern

def check (rule : TextRule) (v : Value) : Except Complaint String := do
  let s ← Search.textOf v
  match rule.violation? s with
  | some complaint => throw complaint
  | none => return s

end TextRule

namespace TextTuple

/-- The items of a value that is accepted as a tuple: of anything that can be iterated, except for
texts, bytes and mappings. -/
def items? (v : Value) : Option (List Value) :=
  match v with
  | .text _ | .bytes _ | .dict _ | .map _ => none
  | v => v.items?

/-- The complaints about the items, in order; the position of the first one is `position`. -/
def itemIssues (rule : TextRule) (location : List Value) : (position : Nat) → List Value → List Issue
  | _, [] => []
  | position, v :: rest =>
    let issues := itemIssues rule location (position + 1) rest
    match rule.check v with
    | .ok _ => issues
    | .error complaint => ⟨complaint, location ++ [.int position], v⟩ :: issues

def itemTexts (rule : TextRule) (items : List Value) : List String :=
  items.filterMap fun v => (rule.check v).toOption

/-- The texts that a value is accepted as at a location, or all complaints about it. -/
def validate (rule : TextRule) (location : List Value) (v : Value) :
    Except (List Issue) (List String) :=
  match items? v with
  | none => .error [⟨.tupleExpected, location, v⟩]
  | some items =>
    let issues := itemIssues rule location 0 items
    if issues.isEmpty then .ok (itemTexts rule items) else .error issues

end TextTuple
end RecordQuery
