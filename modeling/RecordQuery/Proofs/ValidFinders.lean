import RecordQuery.Finders.Validation
import RecordQuery.Proofs.TextTuples
/-!
Which values are accepted as default finders, and what is said about all others.

A value is looked at candidate by candidate: nothing has no candidates, a text is its only one, and the
candidates of anything else are its items (`candidates`). It is accepted exactly if every candidate is a name,
and then the finders are these names, in order and with repetitions. If it is not, there is one complaint for
each candidate that is no name, at its position (`ofValue_exact`).
-/

namespace RecordQuery

namespace DefaultFinders

/-! ## One candidate -/

/-- The name that a value is: a text that is not empty, or bytes that encode one. -/
def nameOf? (v : Value) : Option String := (Search.textOf v).toOption.filter (· ≠ "")

def flaw (v : Value) : Complaint :=
  match Search.textOf v with
  | .ok _ => .textTooShort 1
  | .error complaint => complaint

/-- What is said about a value that is no name. There are no words of one's own for bytes that are no text. -/
def refusal (v : Value) : Complaint :=
  match Search.textOf v with
  | .ok _ =>
    .custom "string_too_short" "Default finder names cannot be empty" [("min_length", .int 1), ("input", v)]
  | .error .textExpected =>
    .custom "string_type" ("Default finder " ++ Template.valueText v ++ " is not an attribute name") [("input", v)]
  | .error complaint => complaint

theorem textOf_of_name {v : Value} {name : String} (h : nameOf? v = some name) : Search.textOf v = .ok name := by
  obtain ⟨text, _⟩ := Option.filter_eq_some_iff.1 h
  cases read : Search.textOf v with
  | error complaint =>
    rw [read] at text
    cases text
  | ok s =>
    rw [read] at text
    cases text
    rfl

theorem ne_empty_of_name {v : Value} {name : String} (h : nameOf? v = some name) : name ≠ "" := by
  simpa using (Option.filter_eq_some_iff.1 h).2

theorem nameOf?_text {name : String} (h : name ≠ "") : nameOf? (.text name) = some name :=
  Option.filter_eq_some_iff.2 ⟨rfl, by simpa using h⟩

theorem check_of_name {v : Value} {name : String} (h : nameOf? v = some name) : nameRule.check v = .ok name := by
  have length_ne : name.length ≠ 0 := fun zero => ne_empty_of_name h (String.length_eq_zero_iff.1 zero)
  have violation : nameRule.violation? name = Option.none := by
    simp [TextRule.violation?, nameRule, Option.filter, length_ne]
  rw [TextRule.check_of_text (textOf_of_name h), violation]

theorem check_of_no_name {v : Value} (h : nameOf? v = Option.none) : nameRule.check v = .error (flaw v) := by
  cases read : Search.textOf v with
  | error complaint =>
    rw [TextRule.check_of_no_text read, flaw, read]
  | ok s =>
    have empty : s = "" := by simpa [nameOf?, read, Except.toOption] using h
    subst empty
    rw [TextRule.check_of_text read, flaw, read]
    rfl

theorem fill_not_a_name (v : Value) :
    Template.fill "Default finder \x7binput\x7d is not an attribute name" [("input", v)] =
      "Default finder " ++ Template.valueText v ++ " is not an attribute name" := by
  have filled : Template.fillOne "Default finder \x7binput\x7d is not an attribute name".toList "input" v =
      "Default finder ".toList ++ ((Template.valueText v).toList ++ " is not an attribute name".toList) := rfl
  rw [Template.fill, List.foldl_cons, List.foldl_nil, filled, String.ofList_append, String.ofList_append,
    String.ofList_toList, String.ofList_toList, String.ofList_toList, String.append_assoc]

theorem customise_flaw (v : Value) (location : List Value) :
    Template.customise templates [] ⟨flaw v, location, v⟩ = ⟨refusal v, location, v⟩ := by
  unfold flaw refusal
  cases read : Search.textOf v with
  | ok s => rfl
  | error complaint =>
    rcases Search.textOf_eq_error read with rfl | rfl
    · exact congrArg (fun words => (⟨.custom "string_type" words [("input", v)], location, v⟩ : Issue))
        (fill_not_a_name v)
    · rfl

/-! ## All candidates -/

def offenders (items : List Value) : List (Value × Nat) :=
  items.zipIdx.filter fun placed => (nameOf? placed.1).isNone

def refusalAt (placed : Value × Nat) : Issue :=
  ⟨refusal placed.1, [.text field, .int placed.2], placed.1⟩

theorem itemIssues_of_field (items : List Value) :
    TextTuple.itemIssues nameRule [.text field] 0 items =
      (offenders items).map fun placed => ⟨flaw placed.1, [.text field, .int placed.2], placed.1⟩ := by
  rw [TextTuple.itemIssues_eq, offenders]
  induction items.zipIdx with
  | nil => rfl
  | cons placed rest ih =>
    rw [List.filterMap_cons, List.filter_cons, ih]
    cases name : nameOf? placed.1 with
    | none => rw [check_of_no_name name]; rfl
    | some s => rw [check_of_name name]; rfl

def namesAmong (items : List Value) : List String := items.filterMap nameOf?

theorem itemTexts_eq (items : List Value) : TextTuple.itemTexts nameRule items = namesAmong items := by
  refine congrArg (items.filterMap ·) (funext fun item => ?_)
  cases name : nameOf? item with
  | none => rw [check_of_no_name name]; rfl
  | some s => rw [check_of_name name]; rfl

theorem offenders_eq_nil {items : List Value} :
    offenders items = [] ↔ ∀ item ∈ items, ∃ name, nameOf? item = some name := by
  rw [offenders, List.filter_eq_nil_iff]
  constructor
  · intro h item listed
    obtain ⟨i, at_position⟩ := List.getElem?_of_mem listed
    have named := h (item, i) (List.mem_zipIdx_iff_getElem?.2 at_position)
    exact Option.ne_none_iff_exists'.1 (by simpa using named)
  · intro h placed listed
    obtain ⟨name, named⟩ := h placed.1 (List.fst_mem_of_mem_zipIdx listed)
    simp [named]

theorem map_nameOf? {items : List Value} (h : ∀ item ∈ items, ∃ name, nameOf? item = some name) :
    items.map nameOf? = (namesAmong items).map some := by
  induction items with
  | nil => rfl
  | cons item rest ih =>
    obtain ⟨⟨name, named⟩, others⟩ := List.forall_mem_cons.1 h
    rw [namesAmong, List.filterMap_cons, List.map_cons, named, ih others]
    rfl

theorem nonempty_of_mem_namesAmong {items : List Value} {name : String} (h : name ∈ namesAmong items) :
    name ≠ "" := by
  obtain ⟨item, _, named⟩ := List.mem_filterMap.1 h
  exact ne_empty_of_name named

/-- Candidates are accepted if all of them are names, and else refused with a complaint about each of the
others. -/
theorem validate_of_items {v : Value} {items : List Value} (h : TextTuple.items? v = some items) :
    validate v =
      if offenders items = [] then .ok (ofNames (namesAmong items))
      else .error (invalid ((offenders items).map refusalAt)) := by
  by_cases valid : offenders items = []
  · have raw : TextTuple.validate nameRule [.text field] v = .ok (namesAmong items) := by
      simp [TextTuple.validate, h, itemIssues_of_field, itemTexts_eq, valid]
    rw [validate, validateTexts, raw, if_pos valid]
  · have raw : TextTuple.validate nameRule [.text field] v = .error ((offenders items).map fun placed =>
        ⟨flaw placed.1, [.text field, .int placed.2], placed.1⟩) := by
      simp [TextTuple.validate, h, itemIssues_of_field, valid]
    rw [validate, validateTexts, raw, if_neg valid]
    dsimp only
    rw [List.map_map, List.map_map]
    refine congrArg (fun issues => Except.error (invalid issues)) (List.map_congr_left fun placed _ => ?_)
    exact congrArg (Template.inField field) (customise_flaw placed.1 [.int placed.2])

theorem ofValue_toValue (f : DefaultFinders) : ofValue f.toValue = .ok f := by
  have named : ∀ name ∈ f.names, nameOf? (.text name) = some name :=
    fun name listed => nameOf?_text (f.names_ne_empty name listed)
  have valid : offenders (f.names.map .text) = [] :=
    offenders_eq_nil.2 (List.forall_mem_map.2 fun name listed => ⟨name, named name listed⟩)
  have names : namesAmong (f.names.map .text) = f.names := by
    have among := map_nameOf? (offenders_eq_nil.1 valid)
    have own : (f.names.map .text).map nameOf? = f.names.map some := by
      rw [List.map_map]
      exact List.map_congr_left named
    exact (List.map_inj_right fun _ _ => Option.some.inj).1 (among.symm.trans own)
  show validate (.tuple (f.names.map .text)) = .ok f
  rw [validate_of_items rfl, if_pos valid, names, f.ofNames_names]

-- a text is one candidate, and of several candidates each one is told of that is no name
example : ofValue (.text "") = .error (invalid [refusalAt (.text "", 0)]) := rfl

example : ofValue (.list [.text "uri", .int 3, .text "name", .bytes []]) =
    .error (invalid [refusalAt (.int 3, 1), refusalAt (.bytes [], 3)]) := rfl

end DefaultFinders
end RecordQuery
