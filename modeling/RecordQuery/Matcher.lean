import RecordQuery.Attribute
/-!
Matchers: how one attribute value is tested against one expected value.

Every expected value is classified once: a text pattern is searched for in the text of the attribute
value, a class asks for instances, a range for its numbers, a callable for something true, and anything
else for equality. Whatever the kind, a value that equals the expected one is accepted first.
-/

namespace RecordQuery
namespace Matcher

/-- The matcher for an expected value. A matcher stands for itself; patterns over bytes cannot be
searched for in texts. -/
def ofExpected (expected : Value) : Checked Matcher :=
  match expected with
  | .matcher m => .ok m
  | .bytesPattern source => .error (.textPatternsOnly (Pattern.bytesText source))
  | .pattern p => .ok (.pattern p)
  | .kind k => .ok (.kind k)
  | .range start stop step => .ok (.range start stop step)
  | v => .ok (if v.isCallable then .predicate v else .literal v)

/-- Whether a pattern is found in the text of a value. Nothing has no text. -/
def foundIn (p : Pattern) (v : Value) : Checked Bool :=
  match v with
  | .none => .ok false
  | v => do return p.found (← Checked.ofMethod v.str)

/-- Whether a value that is not equal to the expected one is accepted all the same. -/
def check [Answers] (m : Matcher) (actual : Value) : Run Bool :=
  match m with
  | .literal _ => pure false
  | .pattern p => .ofChecked (foundIn p actual)
  | .kind k => pure (actual.isOf k)
  | .range start stop step => .ofChecked (Value.inRange start stop step actual)
  | .predicate f => do
    let result ← Answers.resultOf f actual
    Run.ofChecked result.truth

/-- Whether a value is accepted: it equals the expected one or passes the check. -/
def accepts [Answers] (m : Matcher) (actual : Value) : Run Bool := do
  if ← Run.ofChecked (m.expected.isEqual actual) then pure true else m.check actual

end Matcher
end RecordQuery
