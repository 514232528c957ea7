import RecordQuery.Pattern.Node
/-!
Matching a pattern against a text, by trying its choices in order.

A match is run with a continuation: what has to match after it. A choice is kept when the
continuation accepts, so the first accepted way is found, and undoing a choice needs no bookkeeping
because a cursor is a value. The recursion is on the pattern; a repetition is bounded by the length of
the remaining text, since a round that consumes nothing is the last one.
-/

namespace RecordQuery

/-- A place in a text: what lies behind (nearest first), what lies ahead, and the captured groups
(latest first). -/
structure Cursor where
  past : List Char
  rest : List Char
  groups : List (Nat × List Char)

namespace Cursor

def position (c : Cursor) : Nat := c.past.length

def group? (c : Cursor) (index : Nat) : Option (List Char) :=
  (c.groups.find? (·.1 == index)).map (·.2)

def step? (accepts : Char → Bool) (c : Cursor) : Option Cursor :=
  match c.rest with
  | [] => none
  | d :: rest => if accepts d then some { c with past := d :: c.past, rest := rest } else none

def stepAll? (same : Char → Char → Bool) : List Char → Cursor → Option Cursor
  | [], c => some c
  | d :: ds, c => (c.step? (same d)).bind (stepAll? same ds)

/-- The place `width` characters back, if there are as many. -/
def back? (width : Nat) (c : Cursor) : Option Cursor :=
  if width ≤ c.past.length then
    some { c with past := c.past.drop width, rest := (c.past.take width).reverse ++ c.rest }
  else none

def textSince (start c : Cursor) : List Char :=
  (c.past.take (c.past.length - start.past.length)).reverse

def wordEdge (f : PatternFlags) (c : Cursor) : Bool :=
  c.past.head?.any f.wordChar != c.rest.head?.any f.wordChar

/-- Whether the place is the one asked for. An empty text has no place inside or outside of words. -/
def isAt (f : PatternFlags) (c : Cursor) : Place → Bool
  | .lineStart => c.past.isEmpty || (f.multiline && c.past.head? == some '\n')
  | .lineEnd => c.rest.isEmpty || c.rest == ['\n'] || (f.multiline && c.rest.head? == some '\n')
  | .textStart => c.past.isEmpty
  | .textEnd => c.rest.isEmpty
  | .wordEdge => c.wordEdge f
  | .notWordEdge => !c.wordEdge f && !(c.past.isEmpty && c.rest.isEmpty)

end Cursor

abbrev Continuation := Cursor → Option Cursor

namespace Node

/-- Rounds of a repetition. At least `min` rounds are made, at most `max`; after that a round is made
only if the one before moved on. `last` is the position at which the last optional round began. -/
def rounds (round : Cursor → Continuation → Option Cursor) (min : Nat) (max : Option Nat)
    (preferMore : Bool) : (fuel : Nat) → (count : Nat) → (last : Option Nat) → Cursor →
    Continuation → Option Cursor
  | 0, _, _, _, _ => none
  | fuel + 1, count, last, c, k =>
    if count < min then
      round c fun c' => rounds round min max preferMore fuel (count + 1) last c' k
    else if max.all (count < ·) && last != some c.position then
      let again (_ : Unit) : Option Cursor := round c fun c' =>
        rounds round min max preferMore fuel (count + 1) (some c.position) c' k
      if preferMore then (again ()).or (k c) else (k c).or (again ())
    else k c

def run (f : PatternFlags) : Node → Cursor → Continuation → Option Cursor
  | .empty, c, k => k c
  | .char d, c, k => (c.step? (f.sameChar d)).bind k
  | .any, c, k => (c.step? fun d => f.dotAll || d != '\n').bind k
  | .set negated items, c, k => (c.step? fun d => items.any (·.holds f d) != negated).bind k
  | .place p, c, k => if c.isAt f p then k c else none
  | .seq a b, c, k => a.run f c fun c' => b.run f c' k
  | .alt a b, c, k => (a.run f c k).or (b.run f c k)
  | .capture index body, c, k =>
    body.run f c fun c' => k { c' with groups := (index, c.textSince c') :: c'.groups }
  | .scoped on off body, c, k => body.run ((f.union on).without off) c k
  | .repeated min max greed body, c, k =>
    let fuel := min + c.rest.length + 2
    match greed with
    | .greedy => rounds (body.run f) min max true fuel 0 none c k
    | .lazy => rounds (body.run f) min max false fuel 0 none c k
    | .possessive =>
      (rounds (fun c' k' => (body.run f c' some).bind k') min max true fuel 0 none c some).bind k
  | .backref index, c, k =>
    (c.group? index).bind fun text => (c.stepAll? f.sameInText text).bind k
  | .ahead negated body, c, k =>
    match body.run f c some with
    | some c' => if negated then none else k { c with groups := c'.groups }
    | none => if negated then k c else none
  | .behind negated width body, c, k =>
    match (c.back? width).bind fun c' => body.run f c' some with
    | some c' => if negated then none else k { c with groups := c'.groups }
    | none => if negated then k c else none
  | .atomic body, c, k => (body.run f c some).bind k
  | .conditional index yes no, c, k =>
    if (c.group? index).isSome then yes.run f c k else no.run f c k

/-- Whether a pattern matches at the place `past`, `rest` of a text or at a later one. -/
def foundFrom (f : PatternFlags) (node : Node) (past : List Char) : List Char → Bool
  | [] => (node.run f ⟨past, [], []⟩ some).isSome
  | d :: rest => (node.run f ⟨past, d :: rest, []⟩ some).isSome || foundFrom f node (d :: past) rest

def foundIn (f : PatternFlags) (node : Node) (text : List Char) : Bool := foundFrom f node [] text

end Node
end RecordQuery
