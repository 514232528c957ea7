import RecordQuery.Proofs.NameForms
/-!
Cutting a text at `_and_`, as the attribute names of a finder are.

A text is cut at the leftmost `_and_`, and then the rest behind it is (`Cut`). There is one way to do so for
every text (`Cut.unique`), and the pieces of a name are those of that way (`cut_splitAnd`). The pieces joined
are the text again (`Cut.intercalate`). The other way round, texts that are joined come apart into themselves
if none of them has an `_and_` in it and none but the last ends in `_and` (`cut_intercalate`); behind such a
text the separator is met one character early, so that the condition is needed too (`Cut.not_early`). Only
texts that are nothing but separators leave no attribute name (`attributesOf_eq_nil`).
-/

namespace RecordQuery
namespace DynamicName

def separator : List Char := ['_', 'a', 'n', 'd', '_']

/-- The separator without its last character. Behind a text that ends so, the separator is met early: the first
character of the one behind completes one that begins in the text. -/
def early : List Char := ['_', 'a', 'n', 'd']

/-- The leftmost separator in a text, with what stands before and behind it. -/
structure FirstSeparator (text piece rest : List Char) : Prop where
  split : text = piece ++ separator ++ rest
  leftmost : ∀ before after, text = before ++ separator ++ after → piece.length ≤ before.length

/-- The pieces of a text that is cut at the leftmost separator, and again in the rest behind it. -/
inductive Cut : (text : List Char) → (pieces : List (List Char)) → Prop
  | whole {text : List Char} (uncut : ¬ separator <:+: text) : Cut text [text]
  | behind {text piece rest : List Char} {pieces : List (List Char)}
      (first : FirstSeparator text piece rest) (cut : Cut rest pieces) : Cut text (piece :: pieces)

/-! ## The leftmost separator -/

section
variable {text piece rest : List Char}

theorem FirstSeparator.occurs (h : FirstSeparator text piece rest) : separator <:+: text :=
  ⟨piece, rest, h.split.symm⟩

theorem firstSeparator_append (rest : List Char) : FirstSeparator (separator ++ rest) [] rest :=
  ⟨rfl, fun before _ _ => Nat.zero_le before.length⟩

theorem FirstSeparator.cons (h : FirstSeparator text piece rest) {c : Char}
    (elsewhere : ¬ separator <+: c :: text) : FirstSeparator (c :: text) (c :: piece) rest := by
  refine ⟨by rw [h.split]; rfl, fun before after split => ?_⟩
  cases before with
  | nil => exact absurd ⟨after, split.symm⟩ elsewhere
  | cons b before =>
    have inner : text = before ++ separator ++ after := (List.cons.inj split).2
    have := h.leftmost before after inner
    simp only [List.length_cons]
    omega

theorem FirstSeparator.unique {piece' rest' : List Char} (h : FirstSeparator text piece rest)
    (h' : FirstSeparator text piece' rest') : piece = piece' ∧ rest = rest' := by
  have le := h.leftmost piece' rest' h'.split
  have ge := h'.leftmost piece rest h.split
  have same : piece ++ (separator ++ rest) = piece' ++ (separator ++ rest') := by
    rw [← List.append_assoc, ← List.append_assoc, ← h.split, ← h'.split]
  obtain ⟨pieces, rests⟩ := List.append_inj same (by omega)
  exact ⟨pieces, List.append_cancel_left rests⟩

theorem FirstSeparator.clean (h : FirstSeparator text piece rest) : ¬ separator <:+: piece := by
  rintro ⟨before, after, inside⟩
  have earlier : text = before ++ separator ++ (after ++ separator ++ rest) := by
    rw [h.split, ← inside]
    simp
  have := h.leftmost before _ earlier
  have := congrArg List.length inside
  simp [separator] at this
  omega

theorem FirstSeparator.not_early (h : FirstSeparator text piece rest) :
    ¬ early <:+ piece := by
  rintro ⟨before, ends⟩
  have earlier : text = before ++ separator ++ ('a' :: 'n' :: 'd' :: '_' :: rest) := by
    rw [h.split, ← ends]
    simp [separator, early]
  have := h.leftmost before _ earlier
  have := congrArg List.length ends
  simp [early] at this
  omega

/-- Behind a text that neither has a separator nor begins one at its end, the first separator is the one that
follows the text. -/
theorem firstSeparator_of_piece (clean : ¬ separator <:+: piece)
    (not_early : ¬ early <:+ piece)
    (rest : List Char) : FirstSeparator (piece ++ separator ++ rest) piece rest := by
  induction piece with
  | nil => exact firstSeparator_append rest
  | cons c piece ih =>
    have inner := ih (fun inside => clean (inside.trans (List.suffix_cons c piece).isInfix))
      (fun last => not_early (last.trans (List.suffix_cons c piece)))
    refine inner.cons fun ⟨after, here⟩ => ?_
    -- the cases are how much of the piece is left for a separator that begins with `c`
    match piece, here with
    | [], here => simp [separator] at here
    | [_], here => simp [separator] at here
    | [_, _], here => simp [separator] at here
    | [_, _, _], here =>
      simp only [separator, List.cons_append, List.cons.injEq] at here
      obtain ⟨rfl, rfl, rfl, rfl, _⟩ := here
      exact not_early List.suffix_rfl
    | _ :: _ :: _ :: _ :: more, here =>
      simp only [separator, List.cons_append, List.nil_append, List.cons.injEq] at here
      obtain ⟨rfl, rfl, rfl, rfl, rfl, _⟩ := here
      exact clean ⟨[], more, rfl⟩

end

/-! ## Cutting -/

section
variable {text : List Char} {pieces : List (List Char)}

theorem Cut.ne_nil (h : Cut text pieces) : pieces ≠ [] := by
  cases h <;> simp

theorem Cut.unique {pieces' : List (List Char)} (h : Cut text pieces) (h' : Cut text pieces') :
    pieces = pieces' := by
  induction h generalizing pieces' with
  | whole uncut =>
    cases h' with
    | whole => rfl
    | behind first _ => exact absurd first.occurs uncut
  | behind first _ ih =>
    cases h' with
    | whole uncut => exact absurd first.occurs uncut
    | behind first' cut' =>
      obtain ⟨rfl, rfl⟩ := first.unique first'
      rw [ih cut']

theorem Cut.intercalate (h : Cut text pieces) : separator.intercalate pieces = text := by
  induction h with
  | whole => simp
  | behind first cut ih =>
    obtain ⟨p, ps, rfl⟩ := List.exists_cons_of_ne_nil cut.ne_nil
    rw [List.intercalate_cons_cons, ih, first.split]

theorem Cut.clean (h : Cut text pieces) : ∀ piece ∈ pieces, ¬ separator <:+: piece := by
  induction h with
  | whole uncut => simpa using uncut
  | behind first _ ih => exact List.forall_mem_cons.2 ⟨first.clean, ih⟩

theorem Cut.not_early (h : Cut text pieces) : ∀ piece ∈ pieces.dropLast, ¬ early <:+ piece := by
  induction h with
  | whole => simp
  | behind first cut ih =>
    rw [List.dropLast_cons_of_ne_nil cut.ne_nil]
    exact List.forall_mem_cons.2 ⟨first.not_early, ih⟩

/-- Joined texts come apart into themselves, if there is no separator in any of them and none is met early. -/
theorem cut_intercalate (some : pieces ≠ []) (clean : ∀ piece ∈ pieces, ¬ separator <:+: piece)
    (not_early : ∀ piece ∈ pieces.dropLast, ¬ early <:+ piece) :
    Cut (separator.intercalate pieces) pieces := by
  induction pieces with
  | nil => exact absurd rfl some
  | cons piece pieces ih =>
    obtain ⟨first_clean, clean⟩ := List.forall_mem_cons.1 clean
    cases pieces with
    | nil =>
      rw [List.intercalate_singleton]
      exact .whole first_clean
    | cons next pieces =>
      rw [List.dropLast_cons_of_ne_nil (List.cons_ne_nil next pieces)] at not_early
      obtain ⟨first_not_early, not_early⟩ := List.forall_mem_cons.1 not_early
      rw [List.intercalate_cons_cons]
      exact .behind (firstSeparator_of_piece first_clean first_not_early _)
        (ih (List.cons_ne_nil next pieces) clean not_early)

end

/-! ## The pieces of a name -/

theorem splitAnd_ne_nil (text : List Char) : splitAnd text ≠ [] := by
  fun_cases splitAnd text <;> simp

theorem cut_splitAnd (text : List Char) : Cut text (splitAnd text) := by
  fun_induction splitAnd text with
  | case1 => exact .whole (by simp [separator])
  | case2 rest ih => exact .behind (firstSeparator_append rest) ih
  | case3 c rest no_separator piece pieces split ih =>
    have elsewhere : ¬ separator <+: c :: rest := by
      rintro ⟨after, here⟩
      obtain ⟨rfl, rfl⟩ := List.cons.inj here
      exact no_separator after rfl rfl
    rw [split] at ih
    cases ih with
    | whole uncut =>
      refine .whole fun inside => ?_
      rcases List.infix_cons_iff.1 inside with here | inside
      · exact elsewhere here
      · exact uncut inside
    | behind first cut => exact .behind (first.cons elsewhere) cut
  | case4 c rest _ split => exact absurd split (splitAnd_ne_nil rest)

theorem cut_iff {text : List Char} {pieces : List (List Char)} : Cut text pieces ↔ splitAnd text = pieces := by
  constructor
  · intro h
    exact (cut_splitAnd text).unique h
  · rintro rfl
    exact cut_splitAnd text

/-! ## Attribute names -/

/-- The names that the pieces of a segment make: those that are not empty. -/
def namesOf (pieces : List (List Char)) : List String := (pieces.filter (!·.isEmpty)).map String.ofList

def IsSeparators (text : List Char) : Prop := ∃ n, text = (List.replicate n separator).flatten

section
variable {segment : List Char} {pieces : List (List Char)}

theorem attributesOf_of_cut (h : Cut segment pieces) : attributesOf segment = namesOf pieces := by
  rw [attributesOf, cut_iff.1 h, namesOf]

theorem mem_namesOf {name : String} : name ∈ namesOf pieces ↔ name ≠ "" ∧ name.toList ∈ pieces := by
  simp only [namesOf, List.mem_map, List.mem_filter]
  constructor
  · rintro ⟨piece, ⟨listed, filled⟩, rfl⟩
    rw [String.toList_ofList]
    refine ⟨fun empty => ?_, listed⟩
    rw [← String.toList_inj, String.toList_ofList] at empty
    simp [empty] at filled
  · intro ⟨filled, listed⟩
    refine ⟨name.toList, ⟨listed, ?_⟩, String.ofList_toList⟩
    simpa [String.toList_eq_nil_iff] using filled

theorem namesOf_eq_nil : namesOf pieces = [] ↔ ∀ piece ∈ pieces, piece = [] := by
  simp [namesOf]

theorem intercalate_replicate (n : Nat) :
    separator.intercalate (List.replicate (n + 1) []) = (List.replicate n separator).flatten := by
  induction n with
  | zero => rfl
  | succ n ih =>
    rw [List.replicate_succ (n := n), List.flatten_cons, ← ih]
    rfl

theorem attributesOf_eq_nil : attributesOf segment = [] ↔ IsSeparators segment := by
  have cut := cut_splitAnd segment
  rw [attributesOf_of_cut cut, namesOf_eq_nil]
  constructor
  · intro empty
    obtain ⟨n, count⟩ := Nat.exists_eq_succ_of_ne_zero (mt List.length_eq_zero_iff.1 cut.ne_nil)
    have pieces : splitAnd segment = List.replicate (n + 1) [] := List.eq_replicate_iff.2 ⟨count, empty⟩
    refine ⟨n, ?_⟩
    rw [← cut.intercalate, pieces, intercalate_replicate]
  · rintro ⟨n, rfl⟩
    have pieces : Cut (separator.intercalate (List.replicate (n + 1) [])) (List.replicate (n + 1) []) := by
      refine cut_intercalate (by simp) (fun piece listed => ?_) (fun piece listed => ?_)
      · rw [List.eq_of_mem_replicate listed]
        simp [separator]
      · rw [List.eq_of_mem_replicate ((List.dropLast_sublist _).mem listed)]
        simp [early]
    rw [intercalate_replicate] at pieces
    rw [cut_iff.1 pieces]
    exact fun _ => List.eq_of_mem_replicate

end
end DynamicName
end RecordQuery
