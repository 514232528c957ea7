/-!
Default finders: the attribute names that a lookup by a bare key tries, in order.
-/

namespace RecordQuery

/-- Attribute names in the order in which they are tried. None of them is empty. -/
structure DefaultFinders where
  names : List String
  names_ne_empty : ∀ name ∈ names, name ≠ ""

namespace DefaultFinders

/-- No default finders: bare keys cannot be looked up. -/
def none : DefaultFinders := ⟨[], by simp⟩

@[ext] theorem ext {f g : DefaultFinders} (h : f.names = g.names) : f = g := by
  cases f; cases g; cases h; rfl

def ofNames (names : List String) : DefaultFinders :=
  ⟨names.filter (· ≠ ""), fun name h => by simpa using (List.mem_filter.1 h).2⟩

theorem names_ofNames {names : List String} (h : ∀ name ∈ names, name ≠ "") :
    (ofNames names).names = names := by
  simpa [ofNames, List.filter_eq_self] using h

theorem ofNames_names (f : DefaultFinders) : ofNames f.names = f :=
  ext (names_ofNames f.names_ne_empty)

end DefaultFinders
end RecordQuery
