import Mathlib.Data.List.Induction
import RecordQuery.Proofs.CustomWords
import RecordQuery.Proofs.Substitution
/-!
Templates whose placeholders are filled in one after the other.

The words of a table are filled in entry by entry, each over the result so far, so that the text of one entry can
complete the placeholder of a later one (`input_read_again`). Up to any entry the result is that of filling in all at
once exactly if no step finds a placeholder that the template does not have (`stages_iff`). None is found if no text
before the last one opens a brace (`occurrences_of_flat`).
-/

namespace RecordQuery
namespace Template

/-! ## All steps -/

/-- With the entries before filled in, the text has as many placeholders of a name as the template. -/
def NoneArises (template : String) (before : List (String × Value)) (name : String) : Prop :=
  occurrences (placeholder name) (substitute before template.toList) = occurrences (placeholder name) template.toList

def IsPlaceholder (v : Value) (name : String) : Prop := (valueText v).toList = placeholder name

section
variable {template : String} {context before : List (String × Value)} {e : String × Value}

theorem fill_none (template : String) : fill template [] = String.ofList (substitute [] template.toList) := by
  rw [substitute_none]
  rfl

theorem fill_concat (template : String) (before : List (String × Value)) (e : String × Value) :
    (fill template (before ++ [e])).toList = substitute [e] (fill template before).toList := by
  rw [fill, List.foldl_append, fill, String.toList_ofList, String.toList_ofList, List.foldl_cons, List.foldl_nil,
    fillOne_eq]

theorem filled_iff {text : String} {chars : List Char} : text = String.ofList chars ↔ text.toList = chars := by
  rw [← String.toList_inj, String.toList_ofList]

/-- Filled in entry by entry, a template comes to the same as filled in at once, step by step, exactly if no step
finds more placeholders than the template has. -/
theorem stages_iff (well : WellNamed context) :
    (∀ part, part <+: context → fill template part = String.ofList (substitute part template.toList)) ↔
      ∀ before e, before ++ [e] <+: context → NoneArises template before e.1 ∨ IsPlaceholder e.2 e.1 := by
  constructor
  · intro stages before e listed
    have earlier := filled_iff.1 (stages before ((List.prefix_append before [e]).trans listed))
    have later := filled_iff.1 (stages (before ++ [e]) listed)
    rw [fill_concat, earlier] at later
    exact (step_iff (well.initial listed) template.toList).1 later
  · intro steps part
    -- entry by entry, from the first one
    induction part using List.reverseRecOn with
    | nil => exact fun _ => fill_none template
    | append_singleton before e ih =>
      intro listed
      have earlier := filled_iff.1 (ih ((List.prefix_append before [e]).trans listed))
      rw [filled_iff, fill_concat, earlier]
      exact (step_iff (well.initial listed) template.toList).2 (steps before e listed)

/-! ## Texts that open no brace -/

def flat : (inside : Bool) → List Char → Bool
  | _, [] => true
  | inside, c :: rest =>
    if c = '\x7b' then !inside && flat true rest else if c = '\x7d' then flat false rest else flat inside rest

theorem exists_flat_of_append {inside : Bool} {q rest : List Char} (h : flat inside (q ++ rest) = true) :
    ∃ inside', flat inside' rest = true := by
  induction q generalizing inside with
  | nil => exact ⟨inside, h⟩
  | cons c q ih =>
    rw [List.cons_append, flat] at h
    split at h
    · exact ih (Bool.and_eq_true_iff.1 h).2
    · split at h
      · exact ih h
      · exact ih h

theorem closed_of_flat {rest : List Char} (h : flat true rest = true) :
    ∃ q, '\x7b' ∉ q ∧ '\x7d' ∉ q ∧ (rest = q ∨ ∃ more, rest = q ++ '\x7d' :: more) := by
  induction rest with
  | nil => exact ⟨[], List.not_mem_nil, List.not_mem_nil, .inl rfl⟩
  | cons c rest ih =>
    rw [flat] at h
    split at h
    · exact absurd (Bool.and_eq_true_iff.1 h).1 (by decide)
    · rename_i not_open
      split at h
      · rename_i close
        exact ⟨[], List.not_mem_nil, List.not_mem_nil, .inr ⟨rest, by rw [close]; rfl⟩⟩
      · rename_i not_close
        obtain ⟨q, plain, unclosed, split⟩ := ih h
        refine ⟨c :: q, by simp [Ne.symm not_open, plain], by simp [Ne.symm not_close, unclosed], ?_⟩
        exact split.imp (congrArg (c :: ·)) fun ⟨more, same⟩ => ⟨more, congrArg (c :: ·) same⟩

/-- What stands behind a brace that is opened is not changed up to the brace that closes it. -/
theorem placeholder_prefix_substitute {name : String} {rest : List Char} (bare : Bare name)
    (h : flat true rest = true) :
    placeholder name <+: '\x7b' :: substitute before rest ↔ placeholder name <+: '\x7b' :: rest := by
  obtain ⟨q, opens_none, unclosed, same | ⟨more, same⟩⟩ := closed_of_flat h
  · have kept : substitute before (q ++ []) = q ++ substitute before [] := substitute_plain opens_none
    rw [List.append_nil] at kept
    rw [same, kept, substitute, substituteFrom, List.append_nil]
  · have opens_none : '\x7b' ∉ q ++ ['\x7d'] := by simp [opens_none]
    have kept : substitute before (q ++ ['\x7d'] ++ more) = q ++ ['\x7d'] ++ substitute before more :=
      substitute_plain opens_none
    rw [List.append_assoc, List.append_assoc, List.singleton_append, List.singleton_append, ← same] at kept
    rw [kept, same, placeholder_prefix_iff bare unclosed, placeholder_prefix_iff bare unclosed]

theorem occurrences_of_flat (well : WellNamed (before ++ [e]))
    (plain : ∀ e' ∈ before, '\x7b' ∉ (valueText e'.2).toList) (text : List Char) :
    ∀ inside, flat inside text = true →
      occurrences (placeholder e.1) (substitute before text) = occurrences (placeholder e.1) text := by
  have bare := well.bare_last
  induction text using reading_induction (before ++ [e]) with
  | nil => exact fun _ _ => rfl
  | placed placed listed rest ih =>
    intro inside h
    obtain ⟨inside', h⟩ := exists_flat_of_append h
    rw [occurrences_placeholder (well.bare placed listed), ← ih inside' h]
    simp only [placeholder_prefix_placeholder bare (well.bare placed listed)]
    rcases List.mem_append.1 listed with listed | last
    · have other : e.1 ≠ placed.1 := fun same => well.last_new (same ▸ List.mem_map_of_mem listed)
      rw [substitute_placeholder well.front listed, occurrences_plain (plain placed listed), if_neg other]
      rfl
    · obtain rfl := List.mem_singleton.1 last
      rw [substitute_other well.front.bare bare well.last_new, occurrences_placeholder bare,
        if_pos (List.prefix_append ..), if_pos rfl]
  | char c rest none_begins ih =>
    intro inside h
    obtain ⟨inside', h'⟩ := exists_flat_of_append (q := [c]) h
    obtain ⟨none_before, not_here⟩ := entryAt?_concat_eq_none.1 none_begins
    -- nothing is filled in between braces, so filling in does not complete the placeholder
    have not_completed : ¬ placeholder e.1 <+: c :: substitute before rest := by
      intro begins
      obtain rfl := opens_of_begins begins
      exact not_here ((placeholder_prefix_substitute bare (Bool.and_eq_true_iff.1 h).2).1 begins)
    rw [substitute_char none_before, occurrences_char not_completed, occurrences_char not_here, ih inside' h']

end

/-! ## The words of a complaint -/

/-- How a message in the words of a table is filled in from a context. -/
structure FilledInTurn (template : String) (context : List (String × Value)) (message : String) : Prop where
  /-- Each entry is filled in over the result so far, all its placeholders at once. -/
  turns : message = String.ofList (context.foldl (fun text e => substitute [e] text) template.toList)
  /-- Up to any entry the result is that of filling in all at once, if and only if no step finds a placeholder that
  the template does not have, unless it is replaced with itself. -/
  stages : (∀ e ∈ context, Bare e.1) →
    ((∀ part, part <+: context → fill template part = String.ofList (substitute part template.toList)) ↔
      ∀ before e, before ++ [e] <+: context → NoneArises template before e.1 ∨ IsPlaceholder e.2 e.1)
  simultaneous : (∀ e ∈ context, Bare e.1) →
    (∀ before e, before ++ [e] <+: context → NoneArises template before e.1 ∨ IsPlaceholder e.2 e.1) →
      message = String.ofList (substitute context template.toList)
  /-- So it is if no brace is opened in the texts before the last one, nor inside the braces of the template. -/
  plain : (∀ e ∈ context, Bare e.1) → flat false template.toList = true →
    (∀ e ∈ context.dropLast, '\x7b' ∉ (valueText e.2).toList) →
      message = String.ofList (substitute context template.toList)
  /-- A single text is never read again. -/
  alone : ∀ e, context = [e] → message = String.ofList (substitute context template.toList)

theorem filledInTurn (template : String) {context : List (String × Value)} (nodup : (context.map (·.1)).Nodup) :
    FilledInTurn template context (fill template context) where
  turns := by simp only [fill, fillOne_eq]
  stages bare := stages_iff ⟨nodup, bare⟩
  simultaneous bare steps := (stages_iff ⟨nodup, bare⟩).2 steps context List.prefix_rfl
  plain := by
    intro bare template_flat opens_none
    have well : WellNamed context := ⟨nodup, bare⟩
    refine (stages_iff well).2 (fun before e listed => .inl ?_) context List.prefix_rfl
    refine occurrences_of_flat (well.initial listed) (fun other there => opens_none other ?_) _ false template_flat
    -- what stands before an entry does not hold the last one
    obtain ⟨rest, rfl⟩ := listed
    rw [List.append_assoc, List.dropLast_append_of_ne_nil (by simp)]
    exact List.mem_append_left _ there
  alone := by
    rintro e rfl
    rw [fill, List.foldl_cons, List.foldl_nil, fillOne_eq]

/-- The words for a complaint are filled in from its context, entry by entry. -/
theorem message_filled_in_turn {templates : Templates} {data : FieldData} {issue : Issue} {template : String}
    (words : HasWords templates issue.complaint.type template)
    (names : (issue.complaint.context.map (·.1)).Nodup) :
    FilledInTurn template (contextOf issue data) (customise templates data issue).complaint.message := by
  have message : (customise templates data issue).complaint.message = fill template (contextOf issue data) := by
    rw [customise, find?_eq_some.2 words]
    rfl
  rw [message]
  apply filledInTurn
  rw [contextOf_eq]
  exact NamedPairs.nodup_putAll names

/-- An input may close braces, and what the last field opens is not completed. -/
theorem message_filled_in_turn_input_and_label :
    (customise [("string_too_long", "\x7binput\x7d for \x7blabel\x7d \x7bnot\x7d")] [("label", .text "\x7binput\x7d")]
      ⟨.textTooLong 1, [.int 0], .text "x\x7d"⟩).complaint.message = "x\x7d for \x7binput\x7d \x7bnot\x7d" := by
  have filled : FilledInTurn "\x7binput\x7d for \x7blabel\x7d \x7bnot\x7d" _
      (customise [("string_too_long", "\x7binput\x7d for \x7blabel\x7d \x7bnot\x7d")]
        [("label", .text "\x7binput\x7d")] ⟨.textTooLong 1, [.int 0], .text "x\x7d"⟩).complaint.message :=
    message_filled_in_turn ⟨rfl, by decide⟩ (by decide)
  refine (filled.plain (by decide) (by decide) (by decide)).trans ?_
  decide

/-- An input that is the placeholder of a field validated earlier is read again. -/
theorem input_read_again :
    ¬ ∀ (templates : Templates) (data : FieldData) (issue : Issue) (template : String),
      HasWords templates issue.complaint.type template → (issue.complaint.context.map (·.1)).Nodup →
        (∀ e ∈ issue.complaint.context ++ data, Bare e.1) →
          (customise templates data issue).complaint.message =
            String.ofList (substitute (contextOf issue data) template.toList) := by
  intro h
  have verbatim := h [("string_too_long", "got \x7binput\x7d")] [("label", .text "secret")]
    ⟨.textTooLong 1, [.int 0], .text "\x7blabel\x7d"⟩ _ ⟨rfl, by decide⟩ (by decide) (by decide)
  have again : (customise [("string_too_long", "got \x7binput\x7d")] [("label", .text "secret")]
      ⟨.textTooLong 1, [.int 0], .text "\x7blabel\x7d"⟩).complaint.message = "got secret" := rfl
  rw [again] at verbatim
  exact absurd verbatim (by decide)

end Template
end RecordQuery
