import RecordQuery.Proofs.NameForms
/-!
The parts that a dynamic name is taken apart into: the line feed that is overlooked, the beginning of a finder
name and the mark.

Each part is given as an equation of the text (`splitStart?_eq_some`, `body?_eq_some_iff`, `marked_iff`). A
character in front of a text changes neither its line feed nor its mark (`body?_cons_cons`,
`splitMark_cons_cons`), so that the beginning of a finder name may be taken off before the line feed is
(`finder?_eq`).
-/

namespace RecordQuery
namespace DynamicName

/-! ## The line feed at the end -/

theorem dropLineFeed_cons_cons (c d : Char) (rest : List Char) :
    dropLineFeed (c :: d :: rest) = c :: dropLineFeed (d :: rest) := by
  simp only [dropLineFeed, List.getLast?_cons_cons, List.dropLast_cons_of_ne_nil (List.cons_ne_nil d rest)]
  split <;> rfl

theorem dropLineFeed_ne_nil {c : Char} (h : c ≠ '\n') (rest : List Char) : dropLineFeed (c :: rest) ≠ [] := by
  cases rest with
  | nil => simp [dropLineFeed, h]
  | cons d rest =>
    rw [dropLineFeed_cons_cons]
    exact List.cons_ne_nil _ _

theorem dropLineFeed_append {start : List Char} (h : '\n' ∉ start) (rest : List Char) :
    dropLineFeed (start ++ rest) = start ++ dropLineFeed rest := by
  induction start with
  | nil => rfl
  | cons c start ih =>
    rw [List.mem_cons, not_or] at h
    obtain ⟨first, others⟩ := h
    cases all : start ++ rest with
    | nil =>
      obtain ⟨rfl, rfl⟩ := List.append_eq_nil_iff.1 all
      simp [dropLineFeed, Ne.symm first]
    | cons d more => rw [List.cons_append, List.cons_append, all, dropLineFeed_cons_cons, ← all, ih others]

theorem body?_eq_some_iff {text body : List Char} :
    body? text = some body ↔ dropLineFeed text = body ∧ body ≠ [] ∧ '\n' ∉ body := by
  simp only [body?]
  split
  · rename_i bad
    simp only [reduceCtorEq, false_iff, not_and, Classical.not_not]
    rintro rfl some
    simpa [some] using bad
  · rename_i good
    simp only [Option.some.injEq]
    constructor
    · rintro rfl
      simpa using good
    · exact fun h => h.1

theorem body?_eq_none_iff {text : List Char} :
    body? text = none ↔ dropLineFeed text = [] ∨ '\n' ∈ dropLineFeed text := by
  simp only [body?]
  split
  · rename_i bad
    simpa [Classical.or_iff_not_imp_left] using bad
  · rename_i good
    simpa [Classical.or_iff_not_imp_left] using good

theorem body?_lineFeed (rest : List Char) : body? ('\n' :: rest) = none := by
  cases rest with
  | nil => rfl
  | cons c rest => simp [body?, dropLineFeed_cons_cons]

theorem body?_singleton {c : Char} (h : c ≠ '\n') {rest : List Char} (ended : rest = [] ∨ rest = ['\n']) :
    body? (c :: rest) = some [c] := by
  rcases ended with rfl | rfl <;> simp [body?, dropLineFeed, h, Ne.symm h]

theorem body?_cons_cons {c d : Char} (hc : c ≠ '\n') (hd : d ≠ '\n') (rest : List Char) :
    body? (c :: d :: rest) = (body? (d :: rest)).map (c :: ·) := by
  have some := dropLineFeed_ne_nil hd rest
  simp only [body?, dropLineFeed_cons_cons]
  by_cases lineFeed : '\n' ∈ dropLineFeed (d :: rest)
  · simp [lineFeed]
  · simp [lineFeed, some, Ne.symm hc]

/-- A body begins where the name does, and is that character alone only if the name ends behind it. -/
theorem body?_cons_eq_some {d : Char} {rest body : List Char} (h : body? (d :: rest) = some body)
    (hd : d ≠ '\n') : ∃ more, body = d :: more ∧ (more = [] → rest = [] ∨ rest = ['\n']) := by
  rcases body?_eq_some h with same | same
  · exact ⟨rest, same.symm, .inl⟩
  · cases body with
    | nil => exact absurd (List.cons.inj same).1 hd
    | cons e more =>
      obtain ⟨rfl, rest_eq⟩ := List.cons.inj same
      refine ⟨more, rfl, ?_⟩
      rintro rfl
      exact .inr rest_eq

/-! ## The mark -/

/-- A text with its mark split off: the character at its end that is one, if another one stands before it. -/
inductive Marked (text : List Char) : (unmarked : List Char) → Option Mark → Prop
  | marked {unmarked : List Char} {mark : Mark} (split : text = unmarked ++ [mark.char])
      (behind : unmarked ≠ []) : Marked text unmarked (some mark)
  | unmarked (alone : ∀ before mark, text = before ++ [Mark.char mark] → before = []) : Marked text text none

theorem splitMark_eq_none {text token : List Char} (h : splitMark text = (token, none)) : token = text := by
  unfold splitMark at h
  split at h
  · split at h <;> cases h
    rfl
  · cases h
    rfl

theorem marked_iff {text unmarked : List Char} {mark : Option Mark} :
    Marked text unmarked mark ↔ splitMark text = (unmarked, mark) := by
  constructor
  · intro h
    cases h with
    | marked split behind => rw [split, splitMark_append_mark behind]
    | unmarked alone =>
      cases h : splitMark text with
      | mk token mark =>
        cases mark with
        | none => rw [splitMark_eq_none h]
        | some mark =>
          obtain ⟨split, behind⟩ := splitMark_eq_some h
          exact absurd (alone token mark split) behind
  · intro h
    cases mark with
    | none =>
      obtain rfl := splitMark_eq_none h
      -- a mark at the end would have been split off
      refine .unmarked fun before mark split => Classical.byContradiction fun behind => ?_
      have marked := splitMark_append_mark behind mark
      rw [← split, h] at marked
      cases (Prod.mk.inj marked).2
    | some mark =>
      obtain ⟨split, behind⟩ := splitMark_eq_some h
      exact .marked split behind

theorem splitMark_singleton (c : Char) : splitMark [c] = ([c], none) := by
  simp only [splitMark, List.length_singleton]
  split <;> rfl

theorem splitMark_cons_cons {c d : Char} {rest : List Char} (h : rest = [] → Mark.ofChar? d = none) :
    splitMark (c :: d :: rest) = (c :: (splitMark (d :: rest)).1, (splitMark (d :: rest)).2) := by
  simp only [splitMark, List.getLast?_cons_cons]
  cases rest with
  | nil => simp [h rfl]
  | cons e rest =>
    cases (d :: e :: rest).getLast?.bind Mark.ofChar? with
    | none => rfl
    | some mark => simp

/-- A mark as it is written; nothing if there is none. -/
def markText : Option Mark → List Char
  | none => []
  | some mark => [mark.char]

@[simp] theorem markText_none : markText none = [] := rfl

@[simp] theorem markText_some (mark : Mark) : markText (some mark) = [mark.char] := rfl

theorem splitMark_append (text : List Char) : (splitMark text).1 ++ markText (splitMark text).2 = text := by
  cases h : splitMark text with
  | mk token mark =>
    cases mark with
    | none => simp [splitMark_eq_none h]
    | some mark => exact (splitMark_eq_some h).1.symm

/-! ## The beginning of a finder name -/

theorem after?_eq_some {start text rest : List Char} : after? start text = some rest ↔ text = start ++ rest := by
  induction start generalizing text with
  | nil => simp [after?, eq_comm]
  | cons s start ih =>
    cases text with
    | nil => simp [after?]
    | cons c text =>
      by_cases same : s = c
      · simp [after?, same, ih]
      · simp [after?, same, Ne.symm same]

/-- The word for the records that a finder answers with, as it stands in the beginning of its name. -/
def reachWord : Reach → List Char
  | .single => ['b', 'y']
  | .all => ['a', 'l', 'l', '_', 'b', 'y']

theorem start_eq (reach : Reach) : Reach.start reach = ['f', 'i', 'n', 'd', '_'] ++ reachWord reach ++ ['_'] := by
  cases reach <;> decide

theorem start_ne_nil (reach : Reach) : Reach.start reach ≠ [] := by simp [start_eq]

theorem lineFeed_not_mem_start (reach : Reach) : '\n' ∉ Reach.start reach := by
  cases reach <;> decide

theorem start_append_ne (rest rest' : List Char) : Reach.start .single ++ rest ≠ Reach.start .all ++ rest' := by
  simp [start_eq, reachWord]

theorem splitStart?_eq_some {text rest : List Char} {reach : Reach} :
    splitStart? text = some (reach, rest) ↔ text = Reach.start reach ++ rest := by
  unfold splitStart?
  cases single : after? (Reach.start .single) text with
  | some rest' =>
    have begins := after?_eq_some.1 single
    cases reach with
    | single => simp [begins, eq_comm]
    | all => simp [begins, start_append_ne]
  | none =>
    have other (rest' : List Char) : text ≠ Reach.start .single ++ rest' := by
      intro begins
      rw [after?_eq_some.2 begins] at single
      cases single
    cases reach with
    | single => simp [other]
    | all => simp [after?_eq_some]

/-! ## Finder names -/

/-- What the parts of a finder name make, if an attribute is among them. -/
def finderOf? (name : String) (reach : Reach) (segment : List Char) (mark : Option Mark) : Option DynamicName :=
  if (attributesOf segment).isEmpty then none
  else some { name, reach, attributes := attributesOf segment,
              token := if mark.isSome then String.ofList name.toList.dropLast else name, mark, exact := true,
              answersWhether := false }

/-- The beginning of a finder name can be taken off before the line feed at its end is. -/
theorem finder?_eq (name : String) :
    finder? name = (splitStart? name.toList).bind fun (reach, rest) => (body? rest).bind fun body =>
      finderOf? name reach (splitMark body).1 (splitMark body).2 := by
  rw [finder?]
  cases start : splitStart? name.toList with
  | none =>
    rw [Option.bind_none, Option.bind_eq_none_iff]
    intro body hb
    cases inner : splitStart? body with
    | none => rfl
    | some parts =>
      -- the name begins as its body does
      have begins := splitStart?_eq_some.1 inner
      rcases body?_eq_some hb with same | same
      · rw [same, inner] at start
        cases start
      · rw [begins, List.append_assoc] at same
        rw [splitStart?_eq_some.2 same] at start
        cases start
  | some parts =>
    obtain ⟨reach, rest⟩ := parts
    have begins := splitStart?_eq_some.1 start
    have dropped := dropLineFeed_append (lineFeed_not_mem_start reach) rest
    rw [begins, Option.bind_some]
    by_cases lineFeed : '\n' ∈ dropLineFeed rest
    · simp [body?, dropped, lineFeed]
    · have whole : body? (Reach.start reach ++ rest) = some (Reach.start reach ++ dropLineFeed rest) :=
        body?_eq_some_iff.2 ⟨dropped, by simp [start_ne_nil], by simp [lineFeed, lineFeed_not_mem_start]⟩
      rw [whole, Option.bind_some, splitStart?_eq_some.2 rfl, Option.bind_some]
      by_cases empty : dropLineFeed rest = []
      · simp [body?, empty]
      · have inner : body? rest = some (dropLineFeed rest) := body?_eq_some_iff.2 ⟨rfl, empty, lineFeed⟩
        simp [inner, finderOf?, empty, begins]

end DynamicName
end RecordQuery
