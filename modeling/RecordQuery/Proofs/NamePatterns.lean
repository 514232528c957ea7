import Mathlib
import RecordQuery.Pattern.Basic
import RecordQuery.Proofs.NameParts
/-!
Dynamic names read by patterns.

A finder name is what the pattern `^find_(by|all_by)_(.+?)([!?])?$` matches, and any other name is read by
`^(.+?)([!?])?$`; `finderByPattern?` and `parseByPatterns` take a name apart by the groups of the two. The lazy
group takes as few characters as it can, so the matcher tries one place after the other for the end of the name
(`Node.run_lazy`). The first place where the name can end is in front of the mark of its body (`map_ends?`).
So the patterns take every name apart as the parser does (`finderByPattern?_eq`, `parseByPatterns_eq`).
-/

namespace RecordQuery

namespace Node

/-! ## Repetitions -/

theorem run_optional (f : PatternFlags) (body : Node) (c : Cursor) (k : Continuation) :
    (Node.repeated 0 (some 1) .greedy body).run f c k = (body.run f c k).or (k c) := by
  have again (c' : Cursor) : rounds (body.run f) 0 (some 1) true (c.rest.length + 1) 1 (some c.position) c' k =
      k c' := by simp [rounds]
  show rounds (body.run f) 0 (some 1) true (0 + c.rest.length + 2) 0 none c k = _
  rw [Nat.zero_add, rounds]
  simp [again]

/-- The first place from here on at which the continuation accepts, with no line feed before it. -/
def shortest (k : Continuation) (groups : List (Nat × List Char)) : (rest past : List Char) → Option Cursor
  | [], past => k ⟨past, [], groups⟩
  | d :: rest, past =>
    (k ⟨past, d :: rest, groups⟩).or (if d = '\n' then none else shortest k groups rest (d :: past))

theorem run_any (c : Cursor) (k : Continuation) :
    Node.any.run .none c k = (c.step? fun d => d != '\n').bind k := rfl

theorem rounds_any {k : Continuation} {groups : List (Nat × List Char)} {rest past : List Char} {fuel count : Nat}
    {last : Option Nat} (enough : rest.length < fuel) (some_round : 1 ≤ count)
    (moved : last ≠ some past.length) :
    rounds (Node.any.run .none) 1 none false fuel count last ⟨past, rest, groups⟩ k =
      shortest k groups rest past := by
  induction rest generalizing past fuel count last with
  | nil =>
    obtain ⟨fuel, rfl⟩ : ∃ n, fuel = n + 1 := ⟨fuel - 1, by omega⟩
    rw [rounds, if_neg (by omega)]
    simp [Cursor.position, moved, run_any, Cursor.step?, shortest]
  | cons d rest ih =>
    obtain ⟨fuel, rfl⟩ : ∃ n, fuel = n + 1 := ⟨fuel - 1, by omega⟩
    have next : rounds (Node.any.run .none) 1 none false fuel (count + 1) (some past.length)
        ⟨d :: past, rest, groups⟩ k = shortest k groups rest (d :: past) :=
      ih (by simpa using enough) (by omega) (by simp)
    rw [rounds, if_neg (by omega)]
    by_cases lineFeed : d = '\n'
    · simp [Cursor.position, moved, run_any, Cursor.step?, shortest, lineFeed]
    · simp [Cursor.position, moved, run_any, Cursor.step?, shortest, lineFeed, next]

theorem run_lazy (past rest : List Char) (groups : List (Nat × List Char)) (k : Continuation) :
    (Node.repeated 1 none .lazy .any).run .none ⟨past, rest, groups⟩ k =
      match rest with
      | [] => none
      | d :: rest => if d = '\n' then none else shortest k groups rest (d :: past) := by
  show rounds (Node.any.run .none) 1 none false (1 + rest.length + 2) 0 none ⟨past, rest, groups⟩ k = _
  rw [rounds, if_pos (by omega)]
  cases rest with
  | nil => rfl
  | cons d rest =>
    have next : rounds (Node.any.run .none) 1 none false (1 + (d :: rest).length + 1) 1 none
        ⟨d :: past, rest, groups⟩ k = shortest k groups rest (d :: past) :=
      rounds_any (by simp; omega) (by omega) (by simp)
    by_cases lineFeed : d = '\n'
    · simp [run_any, Cursor.step?, lineFeed]
    · simpa [run_any, Cursor.step?, lineFeed] using next

/-! ## The end of a name -/

/-- The end of a name behind its token, `([!?])?$`, with the mark as a group of the given number. -/
def closing (index : Nat) : Node :=
  .sequence [.repeated 0 (some 1) .greedy (.capture index (.sequence [.set false [.char '!', .char '?']])),
    .place .lineEnd]

/-- The token of a name and its end, `(.+?)([!?])?$`, with the token as a group of the given number. -/
def ending (index : Nat) : Node :=
  .seq (.capture index (.sequence [.repeated 1 none .lazy .any])) (.closing (index + 1))

/-- The mark in front of the end of a text, if nothing else is. -/
def closing? : List Char → Option (Option Mark)
  | [] => some none
  | d :: rest =>
    if d :: rest = ['\n'] then some none
    else if rest = [] ∨ rest = ['\n'] then (Mark.ofChar? d).map some
    else none

/-- The characters in front of the first place at which a name can end, and the mark behind them. -/
def ends? : List Char → Option (List Char × Option Mark)
  | [] => some ([], none)
  | d :: rest =>
    match closing? (d :: rest) with
    | some mark => some ([], mark)
    | none => if d = '\n' then none else (ends? rest).map fun (more, mark) => (d :: more, mark)

def markGroup (index : Nat) (mark : Option Mark) : List (Nat × List Char) :=
  (mark.map fun m => (index, [m.char])).toList

theorem run_lineEnd (c : Cursor) : (Node.sequence [.place .lineEnd]).run .none c some =
    if c.rest = [] ∨ c.rest = ['\n'] then some c else none := by
  show (if c.isAt .none .lineEnd = true then some c else none) = _
  simp [Cursor.isAt, PatternFlags.none]

theorem holds_marks (d : Char) :
    ([SetItem.char '!', .char '?'].any (·.holds .none d) != false) = (Mark.ofChar? d).isSome := by
  have listed : ([SetItem.char '!', .char '?'].any (·.holds .none d) != false) = ('!' == d || '?' == d) := by
    simp [SetItem.holds, PatternFlags.sameChar, PatternFlags.none]
  rw [listed]
  unfold Mark.ofChar?
  split
  · rfl
  · rfl
  · rename_i no_bang no_question
    simp [Ne.symm no_bang, Ne.symm no_question]

theorem run_mark (index : Nat) (past rest : List Char) (groups : List (Nat × List Char)) (d : Char)
    (k : Continuation) :
    (Node.capture index (.sequence [.set false [.char '!', .char '?']])).run .none ⟨past, d :: rest, groups⟩ k =
      (Mark.ofChar? d).bind fun _ => k ⟨d :: past, rest, (index, [d]) :: groups⟩ := by
  show (Cursor.step? (fun d => [SetItem.char '!', .char '?'].any (·.holds .none d) != false) _).bind _ = _
  simp only [holds_marks, Cursor.step?]
  cases Mark.ofChar? d with
  | none => rfl
  | some mark => simp [Node.sequence, Node.run, Cursor.textSince]

theorem ne_lineFeed_of_mark {d : Char} {mark : Mark} (h : Mark.ofChar? d = some mark) : d ≠ '\n' := by
  rw [DynamicName.char_of_ofChar? h]
  cases mark <;> decide

theorem run_closing (index : Nat) (past rest : List Char) (groups : List (Nat × List Char)) :
    ((closing index).run .none ⟨past, rest, groups⟩ some).map (·.groups) =
      (closing? rest).map fun mark => markGroup index mark ++ groups := by
  show ((Node.repeated 0 (some 1) .greedy _).run .none ⟨past, rest, groups⟩
    (fun c => (Node.sequence [.place .lineEnd]).run .none c some)).map (·.groups) = _
  simp only [run_optional, run_lineEnd]
  cases rest with
  | nil => rfl
  | cons d rest =>
    rw [run_mark, closing?]
    cases mark : Mark.ofChar? d with
    | none => by_cases ended : d :: rest = ['\n'] <;> simp [ended, markGroup]
    | some m =>
      have char := DynamicName.char_of_ofChar? mark
      have no_lineFeed := ne_lineFeed_of_mark mark
      by_cases last : rest = [] ∨ rest = ['\n'] <;> simp [last, no_lineFeed, markGroup, ← char]

/-- The places are tried one after the other, and what stands in front of the first one that is the end is the
token. -/
theorem shortest_closing (index : Nat) (start rest token : List Char) (groups : List (Nat × List Char)) :
    (shortest (fun c => (closing (index + 1)).run .none
          { c with groups := (index, (c.past.take (c.past.length - start.length)).reverse) :: c.groups } some)
        groups rest (token.reverse ++ start)).map (·.groups) =
      (ends? rest).map fun (more, mark) => markGroup (index + 1) mark ++ (index, token ++ more) :: groups := by
  induction rest generalizing token with
  | nil =>
    rw [shortest, run_closing]
    simp [closing?, ends?, markGroup]
  | cons d rest ih =>
    have next := ih (token ++ [d])
    simp only [shortest, Option.map_or, run_closing, ends?]
    cases closing? (d :: rest) with
    | some mark => simp
    | none =>
      by_cases lineFeed : d = '\n'
      · simp [lineFeed]
      · simp only [List.reverse_append, List.reverse_singleton, List.cons_append, List.nil_append] at next
        simp only [Option.map_none, Option.none_or, lineFeed, if_false, next]
        cases ends? rest <;> simp

theorem groups_ending (index : Nat) (past text : List Char) (groups : List (Nat × List Char)) :
    ((ending index).run .none ⟨past, text, groups⟩ some).map (·.groups) =
      match text with
      | [] => none
      | d :: rest =>
        if d = '\n' then none
        else (ends? rest).map fun (more, mark) => markGroup (index + 1) mark ++ (index, d :: more) :: groups := by
  show ((Node.repeated 1 none .lazy .any).run .none ⟨past, text, groups⟩ _).map (·.groups) = _
  rw [run_lazy]
  cases text with
  | nil => rfl
  | cons d rest =>
    by_cases lineFeed : d = '\n'
    · simp [lineFeed]
    · simp only [lineFeed, if_false]
      exact shortest_closing index past rest [d] groups

end Node

namespace DynamicName

/-! ## The first place where a name can end -/

theorem closing?_lineFeed {rest : List Char} (h : rest ≠ []) : Node.closing? ('\n' :: rest) = none := by
  simp [Node.closing?, h, Mark.ofChar?]

theorem closing?_of_ne {d : Char} (h : d ≠ '\n') (rest : List Char) :
    Node.closing? (d :: rest) = if rest = [] ∨ rest = ['\n'] then (Mark.ofChar? d).map some else none := by
  simp [Node.closing?, h]

theorem map_ends? {c : Char} (h : c ≠ '\n') (rest : List Char) :
    (Node.ends? rest).map (fun (more, mark) => (c :: more, mark)) = (body? (c :: rest)).map splitMark := by
  induction rest generalizing c with
  | nil =>
    rw [body?_singleton h (.inl rfl), Node.ends?, Option.map_some, Option.map_some, splitMark_singleton]
  | cons d rest ih =>
    by_cases lineFeed : d = '\n'
    · subst lineFeed
      -- a line feed ends the name only as its last character
      cases rest with
      | nil => simp [Node.ends?, Node.closing?, body?_singleton h, splitMark_singleton]
      | cons e rest =>
        have no_body : body? (c :: '\n' :: e :: rest) = none := by
          simp [body?, dropLineFeed_cons_cons]
        rw [no_body, Node.ends?, closing?_lineFeed (List.cons_ne_nil e rest)]
        rfl
    · rw [Node.ends?, closing?_of_ne lineFeed, body?_cons_cons h lineFeed]
      by_cases last : (rest = [] ∨ rest = ['\n']) ∧ (Mark.ofChar? d).isSome
      · -- the name can end here
        obtain ⟨last, isMark⟩ := last
        obtain ⟨mark, hm⟩ := Option.isSome_iff_exists.1 isMark
        have split : splitMark [c, d] = ([c], some mark) := by simp [splitMark, hm]
        simp [last, hm, body?_singleton lineFeed last, split]
      · -- it cannot, and goes on
        have going : (if rest = [] ∨ rest = ['\n'] then (Mark.ofChar? d).map some else none) = none := by
          split
          · rename_i ended
            simpa [ended] using last
          · rfl
        have next := ih lineFeed
        rw [going]
        simp only [lineFeed, if_false]
        rw [next]
        cases hb : body? (d :: rest) with
        | none => rfl
        | some body =>
          obtain ⟨more, rfl, ends⟩ := body?_cons_eq_some hb lineFeed
          have unmarked : more = [] → Mark.ofChar? d = none := by
            intro nil
            simpa [ends nil] using last
          simp [splitMark_cons_cons unmarked]

theorem groups_of_ending (index : Nat) (past text : List Char) (groups : List (Nat × List Char)) :
    (((Node.ending index).run .none ⟨past, text, groups⟩ some).map (·.groups)) =
      (body? text).map fun body =>
        Node.markGroup (index + 1) (splitMark body).2 ++ (index, (splitMark body).1) :: groups := by
  rw [Node.groups_ending]
  cases text with
  | nil => rfl
  | cons d rest =>
    by_cases lineFeed : d = '\n'
    · rw [lineFeed, body?_lineFeed]
      rfl
    · simp only [lineFeed, if_false]
      have found := congrArg (Option.map fun p : List Char × Option Mark =>
        Node.markGroup (index + 1) p.2 ++ (index, p.1) :: groups) (map_ends? lineFeed rest)
      simpa [Function.comp_def] using found

end DynamicName

/-! ## The patterns of names -/

namespace Node

def spelled (cs : List Char) (next : Node) : Node := cs.foldr (fun c node => .seq (.char c) node) next

theorem run_spelled (cs : List Char) (next : Node) (past text : List Char) (groups : List (Nat × List Char))
    (k : Continuation) :
    (spelled cs next).run .none ⟨past, text, groups⟩ k =
      (DynamicName.after? cs text).bind fun rest => next.run .none ⟨cs.reverse ++ past, rest, groups⟩ k := by
  induction cs generalizing past text with
  | nil => rfl
  | cons a cs ih =>
    show (Cursor.step? (PatternFlags.none.sameChar a) ⟨past, text, groups⟩).bind
      (fun c => (spelled cs next).run .none c k) = _
    cases text with
    | nil => rfl
    | cons c text =>
      by_cases same : a = c
      · subst same
        have stepped : Cursor.step? (PatternFlags.none.sameChar a) ⟨past, a :: text, groups⟩ =
            some ⟨a :: past, text, groups⟩ := by
          simp [Cursor.step?, PatternFlags.sameChar, PatternFlags.none]
        rw [stepped, Option.bind_some, ih]
        simp [DynamicName.after?]
      · simp [Cursor.step?, PatternFlags.sameChar, PatternFlags.none, DynamicName.after?, same]

theorem run_capture_spelled (index : Nat) (cs past text : List Char) (groups : List (Nat × List Char))
    (k : Continuation) :
    (Node.capture index (spelled cs .empty)).run .none ⟨past, text, groups⟩ k =
      (DynamicName.after? cs text).bind fun rest => k ⟨cs.reverse ++ past, rest, (index, cs) :: groups⟩ := by
  show (spelled cs .empty).run .none ⟨past, text, groups⟩ _ = _
  rw [run_spelled]
  simp [Node.run, Cursor.textSince]

end Node

namespace Pattern

/-- The pattern of finder names, `^find_(by|all_by)_(.+?)([!?])?$`. -/
def ofFinderNames : Pattern :=
  { source := "^find_(by|all_by)_(.+?)([!?])?$", flags := .none, groups := 3,
    tree := .seq (.place .lineStart) (.spelled ['f', 'i', 'n', 'd', '_']
      (.seq (.capture 1 (.alt (.spelled ['b', 'y'] .empty) (.spelled ['a', 'l', 'l', '_', 'b', 'y'] .empty)))
        (.spelled ['_'] (.ending 2)))) }

/-- The pattern of bare names, `^(.+?)([!?])?$`. -/
def ofBareNames : Pattern :=
  { source := "^(.+?)([!?])?$", flags := .none, groups := 2, tree := .seq (.place .lineStart) (.ending 1) }

theorem compile?_ofFinderNames :
    compile? "^find_(by|all_by)_(.+?)([!?])?$" .none = some ofFinderNames := by cbv

theorem compile?_ofBareNames : compile? "^(.+?)([!?])?$" .none = some ofBareNames := by cbv

/-- Where the pattern that begins at the beginning of a text ends in it, with its groups. -/
def matched? (p : Pattern) (text : String) : Option Cursor := p.tree.run p.flags ⟨[], text.toList, []⟩ some

end Pattern

namespace DynamicName

theorem groups_ofBareNames (name : String) :
    (Pattern.ofBareNames.matched? name).map (·.groups) =
      (body? name.toList).map fun body => Node.markGroup 2 (splitMark body).2 ++ [(1, (splitMark body).1)] :=
  groups_of_ending 1 [] name.toList []

theorem after?_append (start more text : List Char) :
    after? (start ++ more) text = (after? start text).bind (after? more) := by
  induction start generalizing text with
  | nil => rfl
  | cons s start ih =>
    cases text with
    | nil => rfl
    | cons c text => by_cases same : s = c <;> simp [after?, same, ih]

theorem after?_start (reach : Reach) (text : List Char) :
    after? (Reach.start reach) text =
      ((after? ['f', 'i', 'n', 'd', '_'] text).bind (after? (reachWord reach))).bind (after? ['_']) := by
  rw [start_eq, after?_append, after?_append]

theorem after?_all_of_single {text rest : List Char} (h : after? (reachWord .single) text = some rest) :
    after? (reachWord .all) text = none := by
  rw [after?_eq_some.1 h]
  rfl

theorem groups_behind_word (reach : Reach) (past text : List Char) :
    ((Node.capture 1 (.spelled (reachWord reach) .empty)).run .none ⟨past, text, []⟩
        (fun c => (Node.spelled ['_'] (.ending 2)).run .none c some)).map (·.groups) =
      ((after? (reachWord reach) text).bind (after? ['_'])).bind fun rest => (body? rest).map fun body =>
        Node.markGroup 3 (splitMark body).2 ++ [(2, (splitMark body).1), (1, reachWord reach)] := by
  rw [Node.run_capture_spelled]
  cases after? (reachWord reach) text with
  | none => rfl
  | some rest =>
    simp only [Option.bind_some, Node.run_spelled]
    cases after? ['_'] rest with
    | none => rfl
    | some rest => exact groups_of_ending 2 _ rest _

theorem run_words (c : Cursor) :
    (Node.seq (.capture 1 (.alt (.spelled ['b', 'y'] .empty) (.spelled ['a', 'l', 'l', '_', 'b', 'y'] .empty)))
        (.spelled ['_'] (.ending 2))).run .none c some =
      ((Node.capture 1 (.spelled (reachWord .single) .empty)).run .none c
        fun c => (Node.spelled ['_'] (.ending 2)).run .none c some).or
      ((Node.capture 1 (.spelled (reachWord .all) .empty)).run .none c
        fun c => (Node.spelled ['_'] (.ending 2)).run .none c some) := rfl

theorem groups_ofFinderNames (name : String) :
    (Pattern.ofFinderNames.matched? name).map (·.groups) =
      (splitStart? name.toList).bind fun (reach, rest) => (body? rest).map fun body =>
        Node.markGroup 3 (splitMark body).2 ++ [(2, (splitMark body).1), (1, reachWord reach)] := by
  show ((Node.spelled ['f', 'i', 'n', 'd', '_'] _).run .none ⟨[], name.toList, []⟩ some).map (·.groups) = _
  rw [Node.run_spelled, splitStart?, after?_start, after?_start]
  cases after? ['f', 'i', 'n', 'd', '_'] name.toList with
  | none => rfl
  | some text =>
    rw [Option.bind_some, run_words, Option.map_or, groups_behind_word, groups_behind_word]
    simp only [Option.bind_some]
    cases single : after? (reachWord .single) text with
    | some rest =>
      rw [after?_all_of_single single]
      simp only [Option.bind_some, Option.bind_none, Option.or_none]
      cases after? ['_'] rest <;> rfl
    | none =>
      simp only [Option.bind_none, Option.none_or]
      cases (after? (reachWord .all) text).bind (after? ['_']) <;> rfl

/-! ## Names read by the patterns -/

/-- A finder name as the pattern takes it apart: the first group says how many records it answers with, the
second one joins the attributes, and the third one is the mark, if there is one. -/
def finderByPattern? (name : String) : Option DynamicName :=
  (Pattern.compile? "^find_(by|all_by)_(.+?)([!?])?$" .none).bind fun p =>
    (p.matched? name).bind fun c =>
      let attributes := attributesOf ((c.group? 2).getD [])
      let suffix := c.group? 3
      if attributes.isEmpty then none
      else some {
        name
        reach := if c.group? 1 = some ['b', 'y'] then .single else .all
        attributes
        token := match suffix with
          | some s => String.ofList (name.toList.take (name.toList.length - s.length))
          | none => name
        mark := (suffix.bind (·.head?)).bind Mark.ofChar?
        exact := true
        answersWhether := false }

/-- A bare name as the pattern takes it apart: its token and the mark, if there is one. A name that the pattern
does not match is its own token. -/
def bareByPattern (name : String) : DynamicName :=
  match (Pattern.compile? "^(.+?)([!?])?$" .none).bind (·.matched? name) with
  | none =>
    { name, reach := .single, attributes := [], token := name, mark := none, exact := false,
      answersWhether := false }
  | some c =>
    let suffix := c.group? 2
    { name, reach := .single, attributes := [], token := String.ofList ((c.group? 1).getD []),
      mark := (suffix.bind (·.head?)).bind Mark.ofChar?, exact := suffix = some ['!'],
      answersWhether := suffix = some ['?'] }

def parseByPatterns (name : String) : DynamicName := (finderByPattern? name).getD (bareByPattern name)

theorem mark_of_markGroup (mark : Option Mark) :
    ((mark.map fun m => [m.char]).bind (·.head?)).bind Mark.ofChar? = mark := by
  rcases mark with _ | _ | _ <;> rfl

theorem token_of_mark (name : String) (mark : Option Mark) :
    (match mark.map fun m => [m.char] with
      | some s => String.ofList (name.toList.take (name.toList.length - s.length))
      | none => name) = if mark.isSome then String.ofList name.toList.dropLast else name := by
  cases mark with
  | none => rfl
  | some m => simp [List.dropLast_eq_take]

theorem finderByPattern?_eq (name : String) : finderByPattern? name = finder? name := by
  have groups := groups_ofFinderNames name
  rw [finderByPattern?, finder?_eq, Pattern.compile?_ofFinderNames, Option.bind_some]
  cases start : splitStart? name.toList with
  | none =>
    rw [start, Option.bind_none, Option.map_eq_none_iff] at groups
    rw [groups]
    rfl
  | some parts =>
    obtain ⟨reach, rest⟩ := parts
    rw [start, Option.bind_some] at groups
    rw [Option.bind_some]
    cases hb : body? rest with
    | none =>
      simp only [hb, Option.map_none, Option.map_eq_none_iff] at groups
      simp [groups, hb]
    | some body =>
      simp only [hb, Option.map_some, Option.map_eq_some_iff] at groups
      obtain ⟨c, matched, groups⟩ := groups
      -- the three groups are the reach, the segment and the mark
      have first : c.group? 1 = some (reachWord reach) := by
        rw [Cursor.group?, groups]
        cases (splitMark body).2 <;> rfl
      have second : c.group? 2 = some (splitMark body).1 := by
        rw [Cursor.group?, groups]
        cases (splitMark body).2 <;> rfl
      have third : c.group? 3 = (splitMark body).2.map fun m => [m.char] := by
        rw [Cursor.group?, groups]
        cases (splitMark body).2 <;> rfl
      have reached : (if some (reachWord reach) = some ['b', 'y'] then Reach.single else .all) = reach := by
        cases reach <;> rfl
      simp only [matched, Option.bind_some, first, second, third, Option.getD_some, mark_of_markGroup,
        token_of_mark, reached, finderOf?, hb]

theorem bareByPattern_eq (name : String) : bareByPattern name = bare name := by
  have groups := groups_ofBareNames name
  rw [bareByPattern, bare, Pattern.compile?_ofBareNames, Option.bind_some]
  cases hb : body? name.toList with
  | none =>
    simp only [hb, Option.map_none, Option.map_eq_none_iff] at groups
    simp [groups]
  | some body =>
    simp only [hb, Option.map_some, Option.map_eq_some_iff] at groups
    obtain ⟨c, matched, groups⟩ := groups
    have first : c.group? 1 = some (splitMark body).1 := by
      rw [Cursor.group?, groups]
      cases (splitMark body).2 <;> rfl
    have second : c.group? 2 = (splitMark body).2.map fun m => [m.char] := by
      rw [Cursor.group?, groups]
      cases (splitMark body).2 <;> rfl
    simp only [matched, first, second, Option.getD_some, mark_of_markGroup]
    rcases (splitMark body).2 with _ | _ | _ <;> simp [Mark.char]

theorem parseByPatterns_eq (name : String) : parseByPatterns name = parse name := by
  rw [parseByPatterns, finderByPattern?_eq, bareByPattern_eq, parse]

end DynamicName
end RecordQuery
