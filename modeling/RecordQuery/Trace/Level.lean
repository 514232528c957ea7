import RecordQuery.Value.Equality
/-!
Showing the messages of runs: the threshold below which they are dropped.

The library's logger starts at its own default threshold and takes another one by number or by name. A
threshold of zero leaves the decision to the surrounding program, which drops all below a warning.
-/

namespace RecordQuery
namespace Trace

def levelNames : List (String × Nat) := [
  ("CRITICAL", 50), ("FATAL", 50), ("ERROR", 40), ("WARN", 30), ("WARNING", 30), ("INFO", 20),
  ("DEBUG", 10), ("NOTSET", 0)]

def defaultLevel : String := "INFO"

def levelNamed? (name : String) : Option Nat := (levelNames.find? (·.1 == name)).map (·.2)

def debugLevel : Int := 10

def outerLevel : Int := 30

/-- The threshold that a value asks for: a number, which is kept as it was given, or a name. -/
def levelOf (v : Value) : Checked Value :=
  match v with
  | .int n => .ok (.int n)
  | .bool b => .ok (.bool b)
  | .text name =>
    match levelNamed? name with
    | some n => .ok (.int n)
    | none => .error (.unknownLevel v.printed)
  | v => do
    if ← (Value.text (← Checked.ofMethod v.str)).isEqual v then .error (.unhashable v.builtinClassName)
    else .error (.notALevel (← Checked.ofMethod v.repr))

/-- A place that messages are shown at. -/
structure Handler where
  kind : String
  name : String
  richTracebacks : Bool
  toErrorOutput : Bool

/-- How the library's messages are shown. -/
structure Setup where
  /-- The threshold as it was asked for. -/
  level : Value
  /-- Whether messages go on to the surrounding program. -/
  propagates : Bool
  handlers : List Handler

def Setup.effectiveLevel (s : Setup) : Value :=
  match s.level with
  | .int 0 | .bool false => .int outerLevel
  | level => level

def Setup.showsDebug (s : Setup) : Bool :=
  match s.effectiveLevel with
  | .int n => n ≤ debugLevel
  | .bool b => (b.toNat : Int) ≤ debugLevel
  | _ => false

def setup (level : Value) : Checked Setup := do
  let level ← match level with
    | .none => levelOf (.text defaultLevel)
    | v => levelOf v
  return ⟨level, false, [⟨"RichHandler", "rich", true, true⟩]⟩

end Trace
end RecordQuery
