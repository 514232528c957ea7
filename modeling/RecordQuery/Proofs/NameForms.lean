import RecordQuery.Name
/-!
The forms of dynamic names.

A finder name has attributes and asks for records, never whether there is one (`shape_of_finder?`). A name
that asks whether there is a match is no finder name and ends in `?`, before a line feed perhaps
(`shape_of_answersWhether`).
-/

namespace RecordQuery
namespace DynamicName

/-! ## The pieces of a name -/

theorem char_of_ofChar? {c : Char} {mark : Mark} (h : Mark.ofChar? c = some mark) :
    c = mark.char := by
  unfold Mark.ofChar? at h
  split at h <;> cases h <;> rfl

theorem splitMark_eq_some {cs token : List Char} {mark : Mark}
    (h : splitMark cs = (token, some mark)) : cs = token ++ [mark.char] ∧ token ≠ [] := by
  unfold splitMark at h
  split at h
  · rename_i mark' last
    split at h
    · rename_i long
      cases h
      obtain ⟨c, hc, hm⟩ := Option.bind_eq_some_iff.1 last
      obtain ⟨before, rfl⟩ := List.getLast?_eq_some_iff.1 hc
      rw [List.dropLast_concat, char_of_ofChar? hm]
      refine ⟨rfl, ?_⟩
      intro same
      subst same
      simp at long
    · cases h
  · cases h

theorem dropLineFeed_eq (cs : List Char) :
    cs = dropLineFeed cs ∨ cs = dropLineFeed cs ++ ['\n'] := by
  unfold dropLineFeed
  split
  · rename_i last
    obtain ⟨before, rfl⟩ := List.getLast?_eq_some_iff.1 last
    rw [List.dropLast_concat]
    exact .inr rfl
  · exact .inl rfl

theorem body?_eq_some {cs body : List Char} (h : body? cs = some body) :
    cs = body ∨ cs = body ++ ['\n'] := by
  simp only [body?] at h
  split at h
  · cases h
  · cases h
    exact dropLineFeed_eq cs

theorem body?_of_no_lineFeed {cs : List Char} (nonempty : cs ≠ []) (h : '\n' ∉ cs) :
    body? cs = some cs := by
  have same : dropLineFeed cs = cs := by
    unfold dropLineFeed
    split
    · rename_i last
      exact absurd (List.mem_of_getLast? last) h
    · rfl
  simp [body?, same, nonempty, h]

theorem splitMark_of_unmarked {cs : List Char} (bang : cs.getLast? ≠ some '!')
    (question : cs.getLast? ≠ some '?') : splitMark cs = (cs, none) := by
  have unmarked : cs.getLast?.bind Mark.ofChar? = none := by
    cases hl : cs.getLast? with
    | none => rfl
    | some c =>
      rw [hl] at bang question
      show Mark.ofChar? c = none
      unfold Mark.ofChar?
      split <;> simp_all
  rw [splitMark, unmarked]

theorem splitMark_append_mark {token : List Char} (nonempty : token ≠ []) (mark : Mark) :
    splitMark (token ++ [mark.char]) = (token, some mark) := by
  have last : (token ++ [mark.char]).getLast?.bind Mark.ofChar? = some mark := by
    rw [List.getLast?_concat]
    cases mark <;> rfl
  have long : (token ++ [mark.char]).length ≥ 2 := by
    have := List.length_pos_iff.2 nonempty
    simp
    omega
  rw [splitMark, last]
  simp only
  rw [if_pos long, List.dropLast_concat]

/-! ## Finder names and bare names -/

theorem shape_of_finder? {name : String} {n : DynamicName} (h : finder? name = some n) :
    n.attributes ≠ [] ∧ n.answersWhether = false := by
  unfold finder? at h
  obtain ⟨body, _, h⟩ := Option.bind_eq_some_iff.1 h
  obtain ⟨⟨reach, rest⟩, _, h⟩ := Option.bind_eq_some_iff.1 h
  dsimp only at h
  split at h
  · cases h
  · rename_i some_attributes
    cases h
    refine ⟨?_, rfl⟩
    intro nil
    exact some_attributes (by rw [List.isEmpty_iff.2 nil, Bool.or_true])

theorem attributes_bare (name : String) : (bare name).attributes = [] := by
  unfold bare
  split <;> rfl

/-- A name that asks whether there is a match: a token that is not empty and `?`, before a line feed
perhaps. -/
structure Asks (name : String) (token : List Char) : Prop where
  parsed : parse name = bare name
  ends : name.toList = token ++ ['?'] ∨ name.toList = token ++ ['?', '\n']
  nonempty : token ≠ []
  token_eq : (parse name).token = String.ofList token

/-- A name that asks and does not end in the mark ends in a line feed behind the mark. -/
theorem Asks.ends_of_unmarked {name : String} {token : List Char} (asks : Asks name token)
    (unmarked : name.toList.getLast? ≠ some '?') : name.toList = token ++ ['?', '\n'] := by
  rcases asks.ends with ends | ends
  · rw [ends, List.getLast?_concat] at unmarked
    exact absurd rfl unmarked
  · exact ends

theorem asks_of_answersWhether {name : String} (h : (parse name).answersWhether) :
    ∃ token, Asks name token := by
  have parsed : parse name = bare name := by
    unfold parse at h ⊢
    cases hn : finder? name with
    | none => rfl
    | some n =>
      rw [hn, Option.getD_some, (shape_of_finder? hn).2] at h
      cases h
  rw [parsed] at h
  cases hb : body? name.toList with
  | none => simp [bare, hb] at h
  | some body =>
    have marked : (splitMark body).2 = some .question := by simpa [bare, hb] using h
    have token_eq : (bare name).token = String.ofList (splitMark body).1 := by simp [bare, hb]
    obtain ⟨ends, nonempty⟩ := splitMark_eq_some (Prod.ext rfl marked)
    refine ⟨(splitMark body).1, parsed, ?_, nonempty, parsed ▸ token_eq⟩
    rcases body?_eq_some hb with name_eq | name_eq
    · exact .inl (name_eq.trans ends)
    · rw [ends, List.append_assoc] at name_eq
      exact .inr name_eq

end DynamicName
end RecordQuery
