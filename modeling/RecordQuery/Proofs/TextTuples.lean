import RecordQuery.Validation.Texts
/-!
What the validation of a tuple of texts says.

A check of a value refuses it because it is no text, or for the constraint that its text violates
(`TextRule.check_eq_error`). The complaints about items are those of the checks, each at the position of its item
(`TextTuple.itemIssues_eq`).
-/

namespace RecordQuery

/-- Bytes may fail to be a text, and all else that is no text is of another type. -/
theorem Search.textOf_eq_error {v : Value} {complaint : Complaint} (h : textOf v = .error complaint) :
    complaint = .textExpected ∨ complaint = .textEncoding := by
  unfold textOf at h
  split at h
  · cases h
  · split at h <;> cases h
    exact .inr rfl
  · cases h
    exact .inl rfl

namespace TextRule
variable {rule : TextRule} {v : Value} {complaint : Complaint}

theorem check_of_text {s : String} (h : Search.textOf v = .ok s) :
    rule.check v = match rule.violation? s with
      | some complaint => .error complaint
      | none => .ok s := by
  rw [check, h]
  rfl

theorem check_of_no_text (h : Search.textOf v = .error complaint) : rule.check v = .error complaint := by
  rw [check, h]
  rfl

end TextRule

namespace TextTuple
variable {rule : TextRule} {location : List Value}

theorem itemIssues_eq (rule : TextRule) (location : List Value) (position : Nat) (items : List Value) :
    itemIssues rule location position items = (items.zipIdx position).filterMap fun placed =>
      match rule.check placed.1 with
      | .ok _ => none
      | .error complaint => some ⟨complaint, location ++ [.int placed.2], placed.1⟩ := by
  induction items generalizing position with
  | nil => rfl
  | cons v rest ih =>
    rw [itemIssues, ih, List.zipIdx_cons, List.filterMap_cons]
    cases rule.check v <;> rfl

end TextTuple
end RecordQuery
