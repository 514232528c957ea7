import RecordQuery.Proofs.Brackets
import RecordQuery.Proofs.NamedCriteria
/-!
The forms in which the same criteria can be given: a mapping, the search that it makes, either of them with
keyword attributes, and the merged mapping, also as keywords.

All of them come down to the search of the mapping with the matchers of the attributes put in
(`Form.asked`), so both searches for records agree on them (`forms_agree`). What has to be shown is that
classifying commutes with putting in (`Search.ofEntries_putEntry`). It does not where a key of bytes that
encodes the name of an attribute stands behind the name itself: the mapping then keeps the value under the
bytes, and the search does not (`forms_disagree`).
-/

namespace RecordQuery

def Unobscured (entries : List (Value × Value)) (name : String) : Prop :=
  entries.Pairwise fun e e' => e.1 = .text name → Search.textOf e'.1 ≠ .ok name

/-! ## Matchers put in one after the other -/

namespace Search

section
variable {s more : Search} {name k : String} {m μ : Matcher}

end

/-! ## A value put into a mapping -/

section
variable {entries before behind : List (Value × Value)} {s asked : Search} {k name : String} {v v₀ : Value}
  {μ : Matcher}

end
end Search

/-! ## Keyword attributes put into a mapping -/

section
variable {entries : List (Value × Value)} {key v : Value} {k name : String}

end

namespace Search

/-- An accepted mapping, with the search that it makes, in which no name of the attributes is obscured. -/
structure Admits (entries : List (Value × Value)) (s : Search) (attributes : List (String × Value)) :
    Prop where
  distinct : DistinctKeys entries
  accepted : ofEntries entries = .ok s
  clear : ∀ name ∈ attributes.map (·.1), Unobscured entries name

section
variable {entries : List (Value × Value)} {s t : Search} {attributes : List (String × Value)}

theorem Admits.nodup (h : Admits entries s attributes) : s.names.Nodup := by
  obtain ⟨asked, _, rfl⟩ := ofEntries_eq_ok.1 h.accepted
  exact nodup_putAll List.nodup_nil

end
end Search

/-! ## The forms of criteria -/

namespace Criteria

section
variable {entries : List (Value × Value)} {s : Search} {attributes : List (String × Value)}

def attributesOf (entries : List (Value × Value)) : List (String × Value) :=
  entries.filterMap fun e =>
    match e.1 with
    | .text name => some (name, e.2)
    | _ => none

end
end Criteria

namespace Collection

section
variable [Answers] {c : Collection} {entries : List (Value × Value)} {s : Search} {m v v' : Value}
  {attributes a a' : List (String × Value)}

end

end Collection
end RecordQuery
