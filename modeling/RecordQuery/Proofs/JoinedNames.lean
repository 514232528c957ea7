import RecordQuery.Proofs.NameGrammar
/-!
Finder names made of attribute names.

The beginning of a finder name, attribute names joined by `_and_` and a mark perhaps make a finder name
(`finderName`), for attribute names that stand on one line, have no separator in them and do not end in a mark
(`Joinable`). It is always read as a finder name with that beginning and that mark, but not always with those
attribute names: `x_and` and `y` joined are `x_and_and_y`, which comes apart into `x` and `and_y`. The attribute
names are read back exactly if none but the last ends in `_and` (`finderName_read_back`).
-/

namespace RecordQuery
namespace DynamicName

def finderName (reach : Reach) (attributes : List String) (mark : Option Mark) : String :=
  String.ofList (Reach.start reach) ++ "_and_".intercalate attributes ++ String.ofList (markText mark)

/-- Attribute names that a finder name is made of. -/
structure Joinable (attributes : List String) : Prop where
  nonempty : attributes ≠ []
  filled : ∀ a ∈ attributes, a ≠ ""
  one_line : ∀ a ∈ attributes, '\n' ∉ a.toList
  clean : ∀ a ∈ attributes, ¬ separator <:+: a.toList
  unmarked : ∀ last ∈ attributes.getLast?, ∀ mark : Mark, last.toList.getLast? ≠ some mark.char

/-! ## Joined texts -/

section
variable {pieces : List (List Char)}

theorem length_intercalate (nonempty : pieces ≠ []) :
    (separator.intercalate pieces).length + 5 = pieces.flatten.length + 5 * pieces.length := by
  induction pieces with
  | nil => exact absurd rfl nonempty
  | cons piece pieces ih =>
    cases pieces with
    | nil => simp
    | cons next pieces =>
      have := ih (List.cons_ne_nil next pieces)
      rw [List.intercalate_cons_cons, List.flatten_cons]
      simp only [List.length_append, List.length_cons, separator, List.length_nil] at this ⊢
      omega

/-- If texts make the same joined text without the empty ones among them, then none of them is empty. -/
theorem filled_of_intercalate (nonempty : pieces.filter (!·.isEmpty) ≠ [])
    (same : separator.intercalate pieces = separator.intercalate (pieces.filter (!·.isEmpty))) :
    pieces.filter (!·.isEmpty) = pieces := by
  have some_piece : pieces ≠ [] := by
    rintro rfl
    exact nonempty rfl
  -- the joined texts are as long as each other, and so there are as many separators in both
  have all := length_intercalate some_piece
  have filled := length_intercalate nonempty
  rw [List.flatten_filter_not_isEmpty, ← same, all] at filled
  have count : (pieces.filter (!·.isEmpty)).length = pieces.length := by omega
  exact List.filter_eq_self.2 (List.length_filter_eq_length_iff.1 count)

theorem getLast?_intercalate {last : List Char} (h : pieces.getLast? = some last) (filled : last ≠ []) :
    (separator.intercalate pieces).getLast? = last.getLast? := by
  induction pieces with
  | nil => cases h
  | cons piece pieces ih =>
    cases pieces with
    | nil =>
      obtain rfl : piece = last := by simpa using h
      rw [List.intercalate_singleton]
    | cons next pieces =>
      rw [List.getLast?_cons_cons] at h
      rw [List.intercalate_cons_cons, List.getLast?_append, ih h, List.getLast?_eq_some_getLast filled]
      rfl

theorem mem_intercalate {c : Char} (h : c ∈ separator.intercalate pieces) :
    c ∈ separator ∨ ∃ piece ∈ pieces, c ∈ piece := by
  induction pieces with
  | nil => simp at h
  | cons piece pieces ih =>
    cases pieces with
    | nil =>
      rw [List.intercalate_singleton] at h
      exact .inr ⟨piece, by simp, h⟩
    | cons next pieces =>
      rw [List.intercalate_cons_cons, List.mem_append, List.mem_append] at h
      rcases h with (h | h) | h
      · exact .inr ⟨piece, by simp, h⟩
      · exact .inl h
      · rcases ih h with h | ⟨other, listed, h⟩
        · exact .inl h
        · exact .inr ⟨other, List.mem_cons_of_mem _ listed, h⟩

theorem IsSeparators.eq_nil_or {text : List Char} (h : IsSeparators text) :
    text = [] ∨ ∃ rest, text = separator ++ rest ∧ IsSeparators rest := by
  obtain ⟨n, rfl⟩ := h
  cases n with
  | zero => exact .inl rfl
  | succ n => exact .inr ⟨_, by rw [List.replicate_succ, List.flatten_cons], n, rfl⟩

/-- A separator in front that does not lie in the first text is met early: it ends with the first character of the
one behind that text. -/
theorem eq_early_of_append {piece rest after : List Char} (filled : piece ≠ [])
    (clean : ¬ separator <:+: piece) (h : piece ++ separator ++ rest = separator ++ after) :
    after = ['a', 'n', 'd', '_'] ++ rest := by
  -- a separator that begins with the text can only go on behind it if the text is all of it but the last character
  match piece, h with
  | [], _ => exact absurd rfl filled
  | [_], h => simp [separator] at h
  | [_, _], h => simp [separator] at h
  | [_, _, _], h => simp [separator] at h
  | [_, _, _, _], h =>
    simp only [separator, List.cons_append, List.nil_append, List.cons.injEq] at h
    obtain ⟨_, _, _, _, _, behind⟩ := h
    exact behind.symm
  | _ :: _ :: _ :: _ :: _ :: more, h =>
    simp only [separator, List.cons_append, List.nil_append, List.cons.injEq] at h
    obtain ⟨rfl, rfl, rfl, rfl, rfl, _⟩ := h
    exact absurd ⟨[], more, rfl⟩ clean

/-- Texts that are not empty and have no separator in them are more than separators when they are joined. -/
theorem not_isSeparators_intercalate (nonempty : pieces ≠ []) (filled : ∀ piece ∈ pieces, piece ≠ [])
    (clean : ∀ piece ∈ pieces, ¬ separator <:+: piece) : ¬ IsSeparators (separator.intercalate pieces) := by
  intro only
  match pieces with
  | [] => exact nonempty rfl
  | [piece] =>
    rw [List.intercalate_singleton] at only
    rcases only.eq_nil_or with empty | ⟨rest, begins, _⟩
    · exact filled piece (by simp) empty
    · exact clean piece (by simp) ⟨[], rest, begins.symm⟩
  | piece :: next :: pieces =>
    rw [List.intercalate_cons_cons] at only
    rcases only.eq_nil_or with empty | ⟨rest, begins, behind⟩
    · simp [separator] at empty
    · -- behind the separator that is met early no other one begins
      have early := eq_early_of_append (filled piece (by simp)) (clean piece (by simp)) begins
      rcases behind.eq_nil_or with empty | ⟨_, begins, _⟩
      · simp [early] at empty
      · simp [early, separator] at begins

end

/-! ## Names of finders -/

section
variable {attributes : List String}

def joined (attributes : List String) : List Char := separator.intercalate (attributes.map String.toList)

theorem toList_finderName (reach : Reach) (attributes : List String) (mark : Option Mark) :
    (finderName reach attributes mark).toList = Reach.start reach ++ (joined attributes ++ markText mark) := by
  simp only [finderName, String.toList_append, String.toList_intercalate, String.toList_ofList, List.append_assoc]
  rfl

theorem namesOf_toList (filled : ∀ a ∈ attributes, a ≠ "") : namesOf (attributes.map String.toList) = attributes := by
  have kept : (attributes.map String.toList).filter (!·.isEmpty) = attributes.map String.toList := by
    simpa [List.filter_eq_self] using filled
  rw [namesOf, kept]
  simp

theorem Joinable.attributesOf_eq (h : Joinable attributes) : attributesOf (joined attributes) = attributes ↔
    ∀ a ∈ attributes.dropLast, ¬ early <:+ a.toList := by
  have cut := cut_splitAnd (joined attributes)
  constructor
  · intro same
    have kept : (splitAnd (joined attributes)).filter (!·.isEmpty) = attributes.map String.toList := by
      have := congrArg (List.map String.toList) same
      simpa [attributesOf, Function.comp_def] using this
    have pieces : splitAnd (joined attributes) = attributes.map String.toList := by
      rw [← kept]
      refine (filled_of_intercalate ?_ ?_).symm
      · simpa [kept] using h.nonempty
      · rw [kept, cut.intercalate, joined]
    rw [pieces] at cut
    simpa [← List.map_dropLast] using cut.not_early
  · intro not_early
    have cut : Cut (joined attributes) (attributes.map String.toList) := by
      refine cut_intercalate (by simpa using h.nonempty) (by simpa using h.clean) ?_
      simpa [← List.map_dropLast] using not_early
    rw [attributesOf_of_cut cut, namesOf_toList h.filled]

theorem Joinable.named (h : Joinable attributes) : ¬ IsSeparators (joined attributes) := by
  refine not_isSeparators_intercalate (by simpa using h.nonempty) ?_ (by simpa using h.clean)
  simpa [String.toList_eq_nil_iff] using h.filled

theorem Joinable.getLast?_ne (h : Joinable attributes) (mark : Mark) :
    (joined attributes).getLast? ≠ some mark.char := by
  obtain ⟨last, listed⟩ := Option.isSome_iff_exists.1 (List.getLast?_isSome.2 h.nonempty)
  have filled : last.toList ≠ [] := by
    simpa [String.toList_eq_nil_iff] using h.filled last (List.mem_of_getLast? listed)
  have ends : (joined attributes).getLast? = last.toList.getLast? :=
    getLast?_intercalate (by rw [List.getLast?_map, listed]; rfl) filled
  rw [ends]
  exact h.unmarked last listed mark

theorem Joinable.joined_ne_nil (h : Joinable attributes) : joined attributes ≠ [] := by
  intro empty
  exact h.named ⟨0, empty⟩

theorem Joinable.splitMark (h : Joinable attributes) (mark : Option Mark) :
    splitMark (joined attributes ++ markText mark) = (joined attributes, mark) := by
  cases mark with
  | none =>
    rw [markText_none, List.append_nil]
    exact splitMark_of_unmarked (h.getLast?_ne .bang) (h.getLast?_ne .question)
  | some mark => exact splitMark_append_mark h.joined_ne_nil mark

theorem Joinable.body? (h : Joinable attributes) (mark : Option Mark) :
    body? (joined attributes ++ markText mark) = some (joined attributes ++ markText mark) := by
  refine body?_of_no_lineFeed (by simp [h.joined_ne_nil]) fun lineFeed => ?_
  rcases List.mem_append.1 lineFeed with inside | behind
  · rcases mem_intercalate inside with inside | ⟨piece, listed, inside⟩
    · simp [separator] at inside
    · obtain ⟨a, attribute_listed, rfl⟩ := List.mem_map.1 listed
      exact h.one_line a attribute_listed inside
  · cases mark with
    | none => simp at behind
    | some mark => cases mark <;> simp [Mark.char] at behind

theorem token_finderName (reach : Reach) (attributes : List String) (mark : Option Mark) :
    (if mark.isSome then String.ofList (finderName reach attributes mark).toList.dropLast
      else finderName reach attributes mark) = finderName reach attributes none := by
  cases mark with
  | none => rfl
  | some mark =>
    rw [Option.isSome_some, if_pos rfl, ← String.toList_inj, String.toList_ofList, toList_finderName, toList_finderName,
      markText_some, markText_none, ← List.append_assoc, List.dropLast_concat, List.append_nil]

/-- A finder name made of attribute names is read as one with the beginning and the mark that it is made with, and
with those attribute names exactly if none but the last ends in `_and`. -/
theorem finderName_read_back (h : Joinable attributes) (reach : Reach) (mark : Option Mark) :
    ∃ read, finder? (finderName reach attributes mark) = some
        { name := finderName reach attributes mark, reach, attributes := read,
          token := finderName reach attributes none, mark, exact := true, answersWhether := false } ∧
      (read = attributes ↔ ∀ a ∈ attributes.dropLast, ¬ early <:+ a.toList) := by
  refine ⟨attributesOf (joined attributes), ?_, h.attributesOf_eq⟩
  have body : FinderBody (dropLineFeed (finderName reach attributes mark).toList) reach (joined attributes) mark :=
    finderBody_iff.2 ⟨_, _, toList_finderName reach attributes mark, h.body? mark, h.splitMark mark, h.named⟩
  refine finder?_eq_some_iff.2 ⟨reach, _, mark, body, ?_⟩
  rw [token_finderName]

theorem finderName_name_and_age : Joinable ["name", "age"] ∧
    ∃ read, finder? (finderName .all ["name", "age"] (some .bang)) = some
        { name := finderName .all ["name", "age"] (some .bang), reach := .all, attributes := read,
          token := finderName .all ["name", "age"] none, mark := some .bang, exact := true,
          answersWhether := false } ∧
      (read = ["name", "age"] ↔ ∀ a ∈ ["name"], ¬ early <:+ a.toList) := by
  have joinable : Joinable ["name", "age"] := by
    refine ⟨?_, ?_, ?_, ?_, ?_⟩
    · decide
    · decide
    · decide
    · decide
    · rintro last ⟨⟩ mark
      cases mark <;> decide
  exact ⟨joinable, finderName_read_back joinable .all (some .bang)⟩

example : (finder? (finderName .single ["x_and", "y"] none)).map (·.attributes) = some ["x", "and_y"] := by decide

end
end DynamicName
end RecordQuery
