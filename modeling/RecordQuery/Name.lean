/-!
The names that a collection resolves dynamically.

A finder name is `find_by_` or `find_all_by_` followed by attribute names joined by `_and_`. Any other
name is a bare one: a token to look up. Either may end in `!` or `?`. One line feed at the end of a name
is overlooked; a name with another line feed is taken as it is.
-/

namespace RecordQuery

/-- The mark at the end of a dynamic name. -/
inductive Mark
  /-- `!`: compare literally. -/
  | bang
  /-- `?`: answer whether there is a match. -/
  | question
  deriving DecidableEq

def Mark.char : Mark → Char
  | .bang => '!'
  | .question => '?'

def Mark.ofChar? : Char → Option Mark
  | '!' => some .bang
  | '?' => some .question
  | _ => none

/-- How many records a finder answers with. -/
inductive Reach
  | single
  | all
  deriving DecidableEq

/-- A dynamic name taken apart. -/
structure DynamicName where
  /-- The name as it was asked for. -/
  name : String
  reach : Reach
  /-- The attributes that a finder asks for; none for a bare name. -/
  attributes : List String
  /-- The name without its mark. -/
  token : String
  mark : Option Mark
  /-- Whether the lookup compares literally, not by a pattern. -/
  exact : Bool
  /-- Whether the lookup answers only whether there is a match. -/
  answersWhether : Bool
  deriving DecidableEq

namespace DynamicName

def isFinder (n : DynamicName) : Bool := !n.attributes.isEmpty

def dropLineFeed (cs : List Char) : List Char :=
  if cs.getLast? = some '\n' then cs.dropLast else cs

/-- The characters that a name is read from: those before a line feed at the end, if there are some and
no other line feed is among them. -/
def body? (cs : List Char) : Option (List Char) :=
  let body := dropLineFeed cs
  if body.isEmpty || body.contains '\n' then none else some body

/-- Splits off the mark at the end of a text, which has to leave one character at least. -/
def splitMark (cs : List Char) : List Char × Option Mark :=
  match cs.getLast?.bind Mark.ofChar? with
  | some mark => if cs.length ≥ 2 then (cs.dropLast, some mark) else (cs, none)
  | none => (cs, none)

/-- The pieces between the occurrences of `_and_`, which are taken from the left and do not overlap. -/
def splitAnd : List Char → List (List Char)
  | [] => [[]]
  | '_' :: 'a' :: 'n' :: 'd' :: '_' :: rest => [] :: splitAnd rest
  | c :: rest =>
    match splitAnd rest with
    | piece :: pieces => (c :: piece) :: pieces
    | [] => [[c]]

/-- The attribute names that a segment joins: its pieces that are not empty. -/
def attributesOf (segment : List Char) : List String :=
  ((splitAnd segment).filter (!·.isEmpty)).map String.ofList

def Reach.start : Reach → List Char
  | .single => "find_by_".toList
  | .all => "find_all_by_".toList

/-- What follows the given beginning of a text, if the text begins so. -/
def after? : (start cs : List Char) → Option (List Char)
  | [], cs => some cs
  | _ :: _, [] => none
  | s :: start, c :: cs => if s = c then after? start cs else none

def splitStart? (body : List Char) : Option (Reach × List Char) :=
  match after? (Reach.start .single) body with
  | some rest => some (.single, rest)
  | none => (after? (Reach.start .all) body).map fun rest => (.all, rest)

/-- Takes a finder name apart; `none` for any other name. The token is the name itself without as many
characters at its end as the mark has. -/
def finder? (name : String) : Option DynamicName :=
  (body? name.toList).bind fun body =>
    (splitStart? body).bind fun (reach, rest) =>
      let (segment, mark) := splitMark rest
      let attributes := attributesOf segment
      if rest.isEmpty || attributes.isEmpty then none
      else
        let token := if mark.isSome then String.ofList name.toList.dropLast else name
        some { name, reach, attributes, token, mark, exact := true, answersWhether := false }

/-- Takes a bare name apart: a token and its mark. -/
def bare (name : String) : DynamicName :=
  match body? name.toList with
  | none =>
    { name, reach := .single, attributes := [], token := name, mark := none, exact := false,
      answersWhether := false }
  | some body =>
    let (token, mark) := splitMark body
    { name, reach := .single, attributes := [], token := String.ofList token, mark,
      exact := mark = some .bang, answersWhether := mark = some .question }

def parse (name : String) : DynamicName := (finder? name).getD (bare name)

end DynamicName
end RecordQuery
