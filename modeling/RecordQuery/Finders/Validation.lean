import RecordQuery.Validation.Template
/-!
Default finders from a value: nothing, a single name, or several names.
-/

namespace RecordQuery
namespace DefaultFinders

def nameRule : TextRule := ⟨some 1, .none, .none⟩

def templates : Templates := [
  ("string_type", "Default finder \x7binput\x7d is not an attribute name"),
  ("string_too_short", "Default finder names cannot be empty")]

def field : String := "default_finders"

def invalid (issues : List Issue) : Failure := .invalid ⟨"FinderConfig", issues⟩

def validate (v : Value) : Checked DefaultFinders :=
  match validateTexts nameRule templates [] field v with
  | .error issues => .error (invalid issues)
  | .ok names => .ok (ofNames names)

/-- The finders that a value asks for: nothing for none, a text for a single name, and anything that can
be iterated for the names that it holds. -/
def ofValue (v : Value) : Checked DefaultFinders :=
  match v with
  | .none => .ok .none
  | .text s => validate (.tuple [.text s])
  | v => do validate (.tuple (← v.items))

def toValue (f : DefaultFinders) : Value := .tuple (f.names.map .text)

end DefaultFinders
end RecordQuery
