import RecordQuery.Text.Blank
import RecordQuery.Text.Case
import RecordQuery.Text.Word
/-!
Search patterns as trees, and the flags that govern how a tree is read and matched.
-/

namespace RecordQuery

/-- The switches of a pattern. -/
structure PatternFlags where
  ignoreCase : Bool
  multiline : Bool
  dotAll : Bool
  verbose : Bool
  ascii : Bool
  deriving DecidableEq

namespace PatternFlags

def none : PatternFlags := ⟨false, false, false, false, false⟩

def caseless : PatternFlags := { none with ignoreCase := true }

def union (a b : PatternFlags) : PatternFlags :=
  ⟨a.ignoreCase || b.ignoreCase, a.multiline || b.multiline, a.dotAll || b.dotAll,
    a.verbose || b.verbose, a.ascii || b.ascii⟩

/-- The switches of `a` that `b` leaves alone. -/
def without (a b : PatternFlags) : PatternFlags :=
  ⟨a.ignoreCase && !b.ignoreCase, a.multiline && !b.multiline, a.dotAll && !b.dotAll,
    a.verbose && !b.verbose, a.ascii && !b.ascii⟩

def overlaps (a b : PatternFlags) : Bool :=
  (a.ignoreCase && b.ignoreCase) || (a.multiline && b.multiline) || (a.dotAll && b.dotAll) ||
    (a.verbose && b.verbose) || (a.ascii && b.ascii)

def sameChar (f : PatternFlags) (c d : Char) : Bool :=
  if f.ignoreCase then
    if f.ascii then Text.sameAsciiLetter c d else Text.sameLetter c d
  else c == d

def sameInText (f : PatternFlags) (c d : Char) : Bool :=
  if f.ignoreCase then
    if f.ascii then Text.asciiLower c == Text.asciiLower d else Text.lower c == Text.lower d
  else c == d

def wordChar (f : PatternFlags) (c : Char) : Bool :=
  if f.ascii then Text.isAsciiWordChar c else Text.isWordChar c

end PatternFlags

/-- The classes of characters that have an escape of their own. -/
inductive CharClass
  | digit
  | blank
  | word
  deriving DecidableEq

def CharClass.holds (f : PatternFlags) (c : Char) : CharClass → Bool
  | .digit => if f.ascii then c.isDigit else Text.isDecimalDigit c
  | .blank => if f.ascii then Text.isAsciiBlank c else Text.isBlank c
  | .word => f.wordChar c

/-- One entry of a set of characters; ranges are given by code points. -/
inductive SetItem
  | char (c : Char)
  | range (first last : Nat)
  | named (cls : CharClass) (negated : Bool)
  deriving DecidableEq

/-- The forms under which a character of the text is looked up in a range. -/
def PatternFlags.formsOf (f : PatternFlags) (c : Char) : List Char :=
  if f.ignoreCase then
    if f.ascii then [c, c.toLower, c.toUpper] else Text.letterForms c
  else [c]

def SetItem.holds (f : PatternFlags) (d : Char) : SetItem → Bool
  | .char c => f.sameChar c d
  | .range first last =>
    (f.formsOf d).any fun c => decide (first ≤ c.toNat ∧ c.toNat ≤ last)
  | .named cls negated => cls.holds f d != negated

/-- The places in a text that a pattern can ask for without consuming anything. -/
inductive Place
  | lineStart
  | lineEnd
  | textStart
  | textEnd
  | wordEdge
  | notWordEdge
  deriving DecidableEq

/-- How a repetition spends its freedom. -/
inductive Greed
  | greedy
  | lazy
  | possessive
  deriving DecidableEq

/-- A pattern. -/
inductive Node
  | empty
  | char (c : Char)
  | any
  | set (negated : Bool) (items : List SetItem)
  | place (p : Place)
  | seq (first second : Node)
  | alt (first second : Node)
  | capture (index : Nat) (body : Node)
  | scoped (on off : PatternFlags) (body : Node)
  | repeated (min : Nat) (max : Option Nat) (greed : Greed) (body : Node)
  | backref (index : Nat)
  | ahead (negated : Bool) (body : Node)
  | behind (negated : Bool) (width : Nat) (body : Node)
  | atomic (body : Node)
  | conditional (index : Nat) (yes no : Node)

namespace Node

def sequence : List Node → Node
  | [] => .empty
  | node :: rest => .seq node (sequence rest)

def literal (cs : List Char) : Node := sequence (cs.map .char)

def alternatives : List Node → Node
  | [] => .empty
  | [node] => node
  | node :: rest => .alt node (alternatives rest)

end Node
end RecordQuery
