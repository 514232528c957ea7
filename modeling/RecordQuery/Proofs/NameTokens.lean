import RecordQuery.Proofs.NameGrammar
/-!
What the token and the mark of a name tell of it.

One behind the other (`written`) they are the name again, except for names that end in a line feed which is
overlooked (`IsLine`): the token of a bare name is without it, and the token of a finder name with a mark is the
name without its last character, which is the line feed and not the mark. Nothing else is lost. The mark of a bare
name is the character that it ends in, except for the same names and for those with a line feed inside, which
have no mark (`tokens_tell_of_names`).
-/

namespace RecordQuery
namespace DynamicName

def written (n : DynamicName) : String := n.token ++ String.ofList (markText n.mark)

def IsLine (name : String) : Prop := ∃ line, name.toList = line ++ ['\n'] ∧ line ≠ [] ∧ '\n' ∉ line

/-- A name of one line with a mark and a line feed behind it. -/
def HidesMark (name : String) (mark : Mark) : Prop :=
  ∃ token, name.toList = token ++ [mark.char] ++ ['\n'] ∧ token ≠ [] ∧ '\n' ∉ token

/-- A name that ends in a mark and has a line feed before it. -/
def BreaksMark (name : String) (mark : Mark) : Prop :=
  ∃ before, name.toList = before ++ [mark.char] ∧ '\n' ∈ before

/-- What the token and the mark tell of a name. -/
structure Tells (name : String) : Prop where
  /-- They are the name again, except for a line that is bare or has a mark. -/
  written_iff : written (parse name) = name ↔ ¬ IsLine name ∨ (finder? name).isSome ∧ (parse name).mark = none
  /-- If they are not, then the line feed alone is missing: behind the mark, or behind the token of a finder name,
  in which the mark still stands. -/
  lost : written (parse name) ≠ name →
    name = (if (finder? name).isSome then (parse name).token else written (parse name)) ++ "\n"
  /-- A bare name ends in its mark, and it has the mark that it ends in, except for marks that are hidden by a line
  feed or broken off by one. -/
  mark_iff : finder? name = none → 2 ≤ name.length →
    ((∀ mark : Mark, (parse name).mark = some mark ↔ name.toList.getLast? = some mark.char) ↔
      ∀ mark, ¬ HidesMark name mark ∧ ¬ BreaksMark name mark)
  /-- Only the empty name has an empty token. -/
  empty_iff : (parse name).token = "" ↔ name = ""

/-! ## Lines -/

section
variable {name : String}

theorem append_mark_ne (before line : List Char) (mark : Mark) : before ++ [mark.char] ≠ line ++ ['\n'] := by
  intro same
  have last := congrArg List.getLast? same
  rw [List.getLast?_concat, List.getLast?_concat] at last
  cases mark <;> simp [Mark.char] at last

theorem lineFeed_not_mem_append_mark {before : List Char} {mark : Mark} :
    '\n' ∉ before ++ [mark.char] ↔ '\n' ∉ before := by
  cases mark <;> simp [Mark.char]

theorem body?_of_line {line : List Char} (filled : line ≠ []) (one_line : '\n' ∉ line) :
    body? (line ++ ['\n']) = some line := by
  refine body?_eq_some_iff.2 ⟨?_, filled, one_line⟩
  rw [dropLineFeed_append one_line]
  exact List.append_nil line

theorem body?_of_isLine (h : IsLine name) : ∃ line, body? name.toList = some line := by
  obtain ⟨line, ends, filled, one_line⟩ := h
  exact ⟨line, by rw [ends, body?_of_line filled one_line]⟩

theorem body?_eq_some_cases {body : List Char} (h : body? name.toList = some body) :
    ¬ IsLine name ∧ name.toList = body ∨ IsLine name ∧ name.toList = body ++ ['\n'] := by
  obtain ⟨_, filled, one_line⟩ := body?_eq_some_iff.1 h
  rcases body?_eq_some h with same | same
  · refine .inl ⟨?_, same⟩
    rintro ⟨line, ends, _⟩
    rw [← same, ends] at one_line
    simp at one_line
  · exact .inr ⟨⟨body, same, filled, one_line⟩, same⟩

/-! ## Bare names -/

theorem written_bare_of_none (h : body? name.toList = none) : written (bare name) = name := by
  rw [written, bare, h, markText_none]
  exact String.append_empty

theorem written_bare_of_some {body : List Char} (h : body? name.toList = some body) :
    written (bare name) = String.ofList body := by
  rw [written, bare, h]
  simp only
  rw [← String.ofList_append, splitMark_append]

theorem written_bare_iff : written (bare name) = name ↔ ¬ IsLine name := by
  cases hb : body? name.toList with
  | none =>
    refine iff_of_true (written_bare_of_none hb) fun line => ?_
    obtain ⟨line, some_body⟩ := body?_of_isLine line
    rw [hb] at some_body
    cases some_body
  | some body =>
    rw [written_bare_of_some hb, ← String.toList_inj, String.toList_ofList]
    rcases body?_eq_some_cases hb with ⟨no_line, same⟩ | ⟨line, same⟩
    · exact iff_of_true same.symm no_line
    · refine iff_of_false ?_ (not_not_intro line)
      simp [same]

theorem lost_bare (h : written (bare name) ≠ name) : name = written (bare name) ++ "\n" := by
  obtain ⟨body, hb⟩ := body?_of_isLine (Classical.not_not.1 (mt written_bare_iff.2 h))
  rw [written_bare_of_some hb] at h ⊢
  rcases body?_eq_some hb with same | same
  · exact absurd (by rw [← same, String.ofList_toList]) h
  · rw [← String.toList_inj, same, String.toList_append, String.toList_ofList]
    rfl

/-- A bare name has a mark exactly if it ends in it on one line, before a line feed perhaps. -/
theorem mark_bare_eq_some {mark : Mark} : (bare name).mark = some mark ↔
    ∃ token, token ≠ [] ∧ '\n' ∉ token ∧
      (name.toList = token ++ [mark.char] ∨ name.toList = token ++ [mark.char] ++ ['\n']) := by
  constructor
  · intro marked
    cases hb : body? name.toList with
    | none => simp [bare, hb] at marked
    | some body =>
      obtain ⟨token, split⟩ : ∃ token, splitMark body = (token, some mark) :=
        ⟨_, Prod.ext rfl (by simpa [bare, hb] using marked)⟩
      obtain ⟨rfl, behind⟩ := splitMark_eq_some split
      have one_line := lineFeed_not_mem_append_mark.1 (body?_eq_some_iff.1 hb).2.2
      exact ⟨token, behind, one_line, body?_eq_some hb⟩
  · rintro ⟨token, behind, one_line, ends⟩
    have whole : '\n' ∉ token ++ [mark.char] := lineFeed_not_mem_append_mark.2 one_line
    have body : body? name.toList = some (token ++ [mark.char]) := by
      rcases ends with ends | ends
      · rw [ends, body?_of_no_lineFeed (by simp) whole]
      · rw [ends, body?_of_line (by simp) whole]
    simp only [bare, body]
    rw [splitMark_append_mark behind]

theorem mark_bare_iff (long : 2 ≤ name.length) :
    (∀ mark : Mark, (bare name).mark = some mark ↔ name.toList.getLast? = some mark.char) ↔
      ∀ mark, ¬ HidesMark name mark ∧ ¬ BreaksMark name mark := by
  constructor
  · intro same mark
    constructor
    · rintro ⟨token, ends, behind, one_line⟩
      have last := (same mark).1 (mark_bare_eq_some.2 ⟨token, behind, one_line, .inr ends⟩)
      obtain ⟨before, ends'⟩ := List.getLast?_eq_some_iff.1 last
      exact append_mark_ne before _ mark (ends'.symm.trans ends)
    · rintro ⟨before, ends, lineFeed⟩
      have marked := (same mark).2 (by rw [ends, List.getLast?_concat])
      obtain ⟨token, _, one_line, ends' | ends'⟩ := mark_bare_eq_some.1 marked
      · rw [ends] at ends'
        exact one_line (List.append_cancel_right ends' ▸ lineFeed)
      · exact append_mark_ne before _ mark (ends.symm.trans ends')
  · -- conversely, a mark at the end is read, as the rest is not empty and has no line feed
    intro clear mark
    obtain ⟨hidden, broken⟩ := clear mark
    rw [mark_bare_eq_some]
    constructor
    · rintro ⟨token, behind, one_line, ends | ends⟩
      · rw [ends, List.getLast?_concat]
      · exact absurd ⟨token, ends, behind, one_line⟩ hidden
    · intro last
      obtain ⟨before, ends⟩ := List.getLast?_eq_some_iff.1 last
      refine ⟨before, ?_, fun lineFeed => broken ⟨before, ends, lineFeed⟩, .inl ends⟩
      rintro rfl
      rw [← String.length_toList, ends] at long
      simp at long

theorem splitMark_ne_nil {text : List Char} (h : text ≠ []) : (splitMark text).1 ≠ [] := by
  cases split : splitMark text with
  | mk token mark =>
    cases mark with
    | none => exact splitMark_eq_none split ▸ h
    | some mark => exact (splitMark_eq_some split).2

theorem token_bare_eq_empty : (bare name).token = "" ↔ name = "" := by
  constructor
  · intro empty
    cases hb : body? name.toList with
    | none => simpa [bare, hb] using empty
    | some body =>
      have token : (splitMark body).1 = [] := by
        simpa [bare, hb, String.ofList_eq_empty_iff] using empty
      exact absurd token (splitMark_ne_nil (body?_eq_some_iff.1 hb).2.1)
  · rintro rfl
    rfl

/-! ## Finder names -/

/-- The token of a finder name: without its mark, or without the line feed behind the mark. -/
inductive FinderToken (name token : String) : Option Mark → Prop
  | unmarked (same : token = name) : FinderToken name token none
  | marked {before : List Char} {mark : Mark} (ends : name.toList = before ++ [mark.char]) (begins : before ≠ [])
      (token_eq : token = String.ofList before) : FinderToken name token (some mark)
  | line {before : List Char} {mark : Mark} (ends : name.toList = before ++ [mark.char] ++ ['\n'])
      (one_line : '\n' ∉ before) (token_eq : token = String.ofList (before ++ [mark.char])) :
      FinderToken name token (some mark)

theorem finderToken_of_finder? {n : DynamicName} (h : finder? name = some n) : FinderToken name n.token n.mark := by
  obtain ⟨reach, segment, mark, finder, rfl⟩ := finder?_eq_some_iff.1 h
  obtain ⟨rest, body, whole, inner, split, _⟩ := finderBody_iff.1 finder
  cases mark with
  | none => exact .unmarked rfl
  | some mark =>
    obtain ⟨rfl, _⟩ := splitMark_eq_some split
    have one_line := lineFeed_not_mem_append_mark.1 (body?_eq_some_iff.1 inner).2.2
    simp only [Option.isSome_some, if_true]
    rcases body?_eq_some inner with same | same
    · have ends : name.toList = Reach.start reach ++ segment ++ [mark.char] := by
        rw [whole, same, List.append_assoc]
      exact .marked ends (by simp [start_ne_nil]) (by rw [ends, List.dropLast_concat])
    · have ends : name.toList = Reach.start reach ++ segment ++ [mark.char] ++ ['\n'] := by
        rw [whole, same, ← List.append_assoc, ← List.append_assoc]
      have start_line := lineFeed_not_mem_start reach
      exact .line ends (by simp [start_line, one_line]) (by rw [ends, List.dropLast_concat])

section
variable {token : String} {mark : Option Mark}

theorem FinderToken.written_iff (h : FinderToken name token mark) :
    token ++ String.ofList (markText mark) = name ↔ ¬ IsLine name ∨ mark = none := by
  rw [← String.toList_inj, String.toList_append, String.toList_ofList]
  cases h with
  | unmarked same => simp [same]
  | @marked before mark ends _ token_eq =>
    refine iff_of_true (by rw [token_eq, String.toList_ofList, ends, markText_some]) (.inl ?_)
    rintro ⟨line, ends', _⟩
    exact append_mark_ne before line mark (ends.symm.trans ends')
  | @line before mark ends one_line token_eq =>
    refine iff_of_false ?_ ?_
    · -- the token ends in the mark already, and the mark is written again
      rw [token_eq, String.toList_ofList, ends]
      exact append_mark_ne _ _ mark
    · have line : IsLine name := ⟨_, ends, by simp, lineFeed_not_mem_append_mark.2 one_line⟩
      simp [line]

theorem FinderToken.lost (h : FinderToken name token mark)
    (differs : token ++ String.ofList (markText mark) ≠ name) : name = token ++ "\n" := by
  rw [← String.toList_inj, String.toList_append]
  cases h with
  | unmarked same => exact absurd (by simp [same]) differs
  | marked ends _ token_eq =>
    refine absurd ?_ differs
    rw [← String.toList_inj, String.toList_append, token_eq, String.toList_ofList, String.toList_ofList, ends,
      markText_some]
  | line ends one_line token_eq =>
    rw [ends, token_eq, String.toList_ofList]
    rfl

theorem FinderToken.ne_empty (h : FinderToken name token mark) (filled : name ≠ "") : token ≠ "" := by
  cases h with
  | unmarked same => exact same ▸ filled
  | marked _ begins token_eq => simp [token_eq, begins]
  | line _ _ token_eq => simp [token_eq]

end
end

/-- The token and the mark of a name tell of it all but a line feed that is overlooked. -/
theorem tokens_tell_of_names (name : String) : Tells name := by
  cases found : finder? name with
  | none =>
    have parsed : parse name = bare name := by rw [parse, found, Option.getD_none]
    refine ⟨?_, ?_, ?_, ?_⟩
    · simp [parsed, found, written_bare_iff]
    · simpa [parsed, found] using lost_bare
    · intro _ long
      rw [parsed]
      exact mark_bare_iff long
    · rw [parsed]
      exact token_bare_eq_empty
  | some n =>
    have parsed : parse name = n := by rw [parse, found, Option.getD_some]
    have token := finderToken_of_finder? found
    refine ⟨?_, ?_, ?_, ?_⟩
    · simpa [parsed, found, written] using token.written_iff
    · simpa [parsed, found, written] using token.lost
    · intro bare_name
      rw [found] at bare_name
      cases bare_name
    · have filled : name ≠ "" := by
        rintro rfl
        cases found
      rw [parsed]
      exact iff_of_false (token.ne_empty filled) filled

theorem lines_not_told : written (parse "bob\n") ≠ "bob\n" ∧ written (parse "find_by_x!\n") ≠ "find_by_x!\n" ∧
    (parse "bob!\n").mark = some .bang ∧ "bob!\n".toList.getLast? ≠ some Mark.bang.char := by decide

end DynamicName
end RecordQuery
