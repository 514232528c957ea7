import RecordQuery.Pattern.Match
import RecordQuery.Pattern.Reader
import RecordQuery.Text.Quoted
/-!
Search patterns over text: compiled from their source, searched for in a text, compared by source and
flags, and printed.
-/

namespace RecordQuery

/-- A compiled pattern. Its tree is determined by source and flags, so those two make up its identity. -/
structure Pattern where
  source : String
  /-- The flags given and the ones that the source asks for at its beginning. -/
  flags : PatternFlags
  /-- How many groups it captures. -/
  groups : Nat
  tree : Node

namespace Pattern

/-- Compiles a pattern; `none` when the source has no meaning as one. -/
def compile? (source : String) (flags : PatternFlags) : Option Pattern :=
  (read? source.toList flags).map fun (tree, r) =>
    { source, flags := r.flags, groups := r.opened, tree }

def found (p : Pattern) (text : String) : Bool := p.tree.foundIn p.flags text.toList

def same (p q : Pattern) : Bool := p.source == q.source && p.flags == q.flags

/-- The characters that a pattern would not take literally, blanks and `#` included. -/
def isSpecial (c : Char) : Bool :=
  "()[]\x7b\x7d?*+-|^$\\.&~# \t\n\r\x0b\x0c".toList.contains c

def escape (text : List Char) : List Char :=
  text.flatMap fun c => if isSpecial c then ['\\', c] else [c]

def flagNames (f : PatternFlags) : List String :=
  (if f.ignoreCase then ["re.IGNORECASE"] else []) ++ (if f.multiline then ["re.MULTILINE"] else []) ++
    (if f.dotAll then ["re.DOTALL"] else []) ++ (if f.verbose then ["re.VERBOSE"] else []) ++
    (if f.ascii then ["re.ASCII"] else [])

def printedSource : Nat := 200

def printed (quotedSource : String) (flags : PatternFlags) : String :=
  let names := flagNames flags
  "re.compile(" ++ String.ofList (quotedSource.toList.take printedSource) ++
    (if names.isEmpty then "" else ", " ++ "|".intercalate names) ++ ")"

def text (p : Pattern) : String := printed (Text.quoted p.source) p.flags

def bytesText (source : List UInt8) : String := printed (Text.quotedBytes source) .none

/-- The flags as one number; `bytes` patterns have no flag for the classes of all scripts. -/
def flagNumber (f : PatternFlags) : Nat :=
  (if f.ignoreCase then 2 else 0) + (if f.multiline then 8 else 0) + (if f.dotAll then 16 else 0) +
    (if f.ascii then 256 else 32) + (if f.verbose then 64 else 0)

def bytesGroups (source : List UInt8) : Nat :=
  match read? (source.map fun b => Char.ofNat b.toNat) .none with
  | some (_, r) => r.opened
  | none => 0

end Pattern
end RecordQuery
