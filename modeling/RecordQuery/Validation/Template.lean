import RecordQuery.Validation.Texts
/-!
Complaints in words of one's own.

A table gives a template for a type of complaint. The template's placeholders are filled in one after
the other, in the order of the context: each over the result so far. The context is that of the
complaint, then the input, then the data of the fields validated before; a later entry of the same name
replaces the value and keeps the place.
-/

namespace RecordQuery

abbrev Templates := List (String × String)

abbrev FieldData := List (String × Value)

namespace Template

/-- The text of a value in a message: a truth value is written as a number. -/
def valueText (v : Value) : String :=
  match v with
  | .bool b => toString b.toNat
  | v => v.display

/-- Replaces every occurrence of `part`, from the left and without overlap. `skip` characters are what
is left of an occurrence that was replaced just before. -/
def replaceAll (part new : List Char) : (skip : Nat) → List Char → List Char
  | _, [] => []
  | skip + 1, _ :: rest => replaceAll part new skip rest
  | 0, c :: rest =>
    if part.isPrefixOf (c :: rest) then new ++ replaceAll part new (part.length - 1) rest
    else c :: replaceAll part new 0 rest

def placeholder (name : String) : List Char := '\x7b' :: (name.toList ++ ['\x7d'])

def fillOne (text : List Char) (name : String) (v : Value) : List Char :=
  replaceAll (placeholder name) (valueText v).toList 0 text

def fill (template : String) (context : List (String × Value)) : String :=
  String.ofList (context.foldl (fun text entry => fillOne text entry.1 entry.2) template.toList)

/-- A context with one more entry: a name that is there keeps its place. -/
def put (context : List (String × Value)) (name : String) (v : Value) : List (String × Value) :=
  if context.any (·.1 == name) then context.map fun e => if e.1 == name then (name, v) else e
  else context ++ [(name, v)]

def contextOf (issue : Issue) (data : FieldData) : List (String × Value) :=
  data.foldl (fun context entry => put context entry.1 entry.2)
    (put issue.complaint.context "input" issue.input)

/-- The template for a type of complaint; an empty one counts as none. -/
def find? (templates : Templates) (type : String) : Option String :=
  ((templates.find? (·.1 == type)).map (·.2)).filter (!·.isEmpty)

/-- A complaint in the words of the table, if it has a template for it. -/
def customise (templates : Templates) (data : FieldData) (issue : Issue) : Issue :=
  match find? templates issue.complaint.type with
  | none => issue
  | some template =>
    let context := contextOf issue data
    { issue with complaint := .custom issue.complaint.type (fill template context) context }

def withoutField (issue : Issue) : Issue := { issue with location := issue.location.tail }

def inField (field : String) (issue : Issue) : Issue :=
  { issue with location := .text field :: issue.location }

end Template

/-- Validates the field of the given name as a tuple of texts, and puts the complaints into the words
of the table. Their paths are taken apart and put together again around the field. -/
def validateTexts (rule : TextRule) (templates : Templates) (data : FieldData) (field : String)
    (v : Value) : Except (List Issue) (List String) :=
  match TextTuple.validate rule [.text field] v with
  | .ok texts => .ok texts
  | .error issues =>
    .error ((issues.map fun issue =>
      Template.customise templates data (Template.withoutField issue)).map (Template.inField field))

end RecordQuery
