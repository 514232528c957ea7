import Mathlib.Data.List.Forall2
import RecordQuery.Pattern.Basic
/-!
The pattern that spells out a text, with everything escaped that a pattern would not take literally.

Every text can be made into such a pattern (`compile?_escape`): no character and no escape of it is read as
anything but the character. The pattern is found in a text exactly if a part of it is the text that was
spelled out, letter by letter up to the flags (`foundIn_literal`); in any case a text is found in itself
(`found_inAnyCase_self`).
-/

namespace RecordQuery
namespace Pattern

/-! ## Reading an escaped text -/

def literalToken (c : Char) : Token := if isSpecial c then .escaped c else .plain c

/-- An escape that stands for nothing but the character behind the backslash. -/
structure PlainEscape (c : Char) : Prop where
  no_place : placeOf? c = none
  no_class : classOf? c = none
  no_digit : c.isDigit = false
  no_control : controlOf? c = none
  no_hex : hexLength? c = none
  no_letter : c.isAlphanum = false

/-- The characters that are escaped have plain escapes: no class, place or number is spelled with them. -/
theorem plainEscape_of_isSpecial {c : Char} (h : isSpecial c = true) : PlainEscape c := by
  have listed := List.contains_iff_mem.1 h
  clear h
  constructor
  all_goals
    revert c
    -- the listed characters are gone through, not all characters
    exact @of_decide_eq_true _ (List.decidableBAll _ _) rfl

theorem escape_cons (c : Char) (text : List Char) :
    escape (c :: text) = (if isSpecial c then ['\\', c] else [c]) ++ escape text := rfl

theorem ne_of_not_isSpecial {c d : Char} (h : isSpecial c = false) (hd : isSpecial d = true) : c ≠ d := by
  intro same
  rw [same, hd] at h
  cases h

theorem tokens?_plain {c : Char} (h : c ≠ '\\') (text : List Char) :
    tokens? (c :: text) = (tokens? text).map (.plain c :: ·) :=
  tokens?.eq_4 c text (fun _ _ hc _ => h hc) (fun hc _ => h hc)

theorem tokens?_escape (text : List Char) : tokens? (escape text) = some (text.map literalToken) := by
  induction text with
  | nil => rfl
  | cons c text ih =>
    rw [escape_cons, List.map_cons, literalToken]
    cases special : isSpecial c with
    | true =>
      show (tokens? (escape text)).map (.escaped c :: ·) = _
      rw [ih]
      rfl
    | false =>
      have plain : c ≠ '\\' := ne_of_not_isSpecial special (by decide)
      show tokens? (c :: escape text) = _
      rw [tokens?_plain plain, ih]
      rfl

theorem nodeOfCode_toNat (c : Char) : nodeOfCode c.toNat = .char c := by
  have valid : c.toNat.isValidChar := c.valid
  rw [nodeOfCode, if_pos valid, Char.ofNat_toNat]

theorem readEscape?_of_plainEscape {c : Char} (h : PlainEscape c) (r : Reading) :
    readEscape? c r = some (.char c, r) := by
  have char : readCharEscape? c r = some (c.toNat, r) := by
    simp [readCharEscape?, h.no_control, h.no_hex, h.no_letter]
  simp [readEscape?, h.no_place, h.no_class, h.no_digit, char, nodeOfCode_toNat]

theorem readItems?_literalToken {scope : Scope} (plain : scope.verbose = false) (fuel : Nat)
    (done : List Node) (c : Char) (rest : List Token) (r : Reading) :
    readItems? (fuel + 1) scope done { r with ahead := literalToken c :: rest } =
      readItems? fuel scope (.char c :: done) { r with ahead := rest } := by
  rw [readItems?, literalToken]
  cases special : isSpecial c with
  | true =>
    simp only [if_true]
    rw [readEscape?_of_plainEscape (plainEscape_of_isSpecial special)]
    rfl
  | false =>
    -- none of the characters that mean something to the reader is left unescaped
    have ne (d : Char) (hd : isSpecial d = true) : c ≠ d := ne_of_not_isSpecial special hd
    simp [plain, ne '|' (by decide), ne ')' (by decide), ne '[' (by decide), ne '(' (by decide),
      ne '.' (by decide), ne '^' (by decide), ne '$' (by decide), ne '*' (by decide),
      ne '+' (by decide), ne '?' (by decide), ne '{' (by decide)]

theorem readItems?_escape {scope : Scope} (plain : scope.verbose = false) (text : List Char) (fuel : Nat)
    (enough : text.length < fuel) (done : List Node) (r : Reading) :
    readItems? fuel scope done { r with ahead := text.map literalToken } =
      some ((text.map Node.char).reverse ++ done, { r with ahead := [] }) := by
  induction text generalizing fuel done with
  | nil =>
    obtain ⟨fuel, rfl⟩ : ∃ n, fuel = n + 1 := ⟨fuel - 1, by simp at enough; omega⟩
    rw [readItems?]
    rfl
  | cons c text ih =>
    obtain ⟨fuel, rfl⟩ : ∃ n, fuel = n + 1 := ⟨fuel - 1, by simp at enough; omega⟩
    rw [List.map_cons, readItems?_literalToken plain, ih fuel (by simpa using enough)]
    simp

/-- What an escaped text is read as, whatever the flags other than the one for free layout are. -/
theorem read?_escape (text : List Char) {flags : PatternFlags} (plain : flags.verbose = false) :
    read? (escape text) flags = some (.literal text, .start [] flags) := by
  have items (fuel : Nat) (enough : text.length < fuel) :
      readItems? fuel ⟨flags.verbose, true, false⟩ [] (.start (text.map literalToken) flags) =
        some ((text.map Node.char).reverse, .start [] flags) := by
    have unverbose : (⟨flags.verbose, true, false⟩ : Scope).verbose = false := plain
    have read := readItems?_escape unverbose text fuel enough [] (.start [] flags)
    rwa [List.append_nil] at read
  have branches : readBranches? (6 * (text.map literalToken).length + 6) ⟨flags.verbose, true, false⟩ []
      (.start (text.map literalToken) flags) = some (.literal text, .start [] flags) := by
    rw [readBranches?, items _ (by rw [List.length_map]; omega)]
    simp [Reading.accept?, Reading.start, Node.alternatives, Node.literal]
  rw [read?, tokens?_escape]
  simp only [Option.bind_some, branches]
  simp [Reading.start]

def inAnyCase (text : String) : Pattern :=
  { source := String.ofList (escape text.toList), flags := .caseless, groups := 0,
    tree := .literal text.toList }

theorem compile?_escape (text : String) :
    compile? (String.ofList (escape text.toList)) .caseless = some (inAnyCase text) := by
  rw [compile?, String.toList_ofList, read?_escape text.toList rfl]
  rfl

/-! ## Finding a text -/

/-- Comparing characters one by one succeeds exactly if the text ahead begins with as many that are the
same. -/
theorem isSome_stepAll? (same : Char → Char → Bool) (cs : List Char) (c : Cursor) :
    (c.stepAll? same cs).isSome ↔
      ∃ part after, c.rest = part ++ after ∧ List.Forall₂ (fun a b => same a b = true) cs part := by
  induction cs generalizing c with
  | nil =>
    constructor
    · intro _
      exact ⟨[], c.rest, rfl, .nil⟩
    · intro _
      rfl
  | cons a cs ih =>
    obtain ⟨past, text, groups⟩ := c
    cases text with
    | nil =>
      constructor
      · intro h
        cases h
      · intro ⟨part, after, h, agree⟩
        cases agree
        cases h
    | cons b text =>
      show ((if same a b = true then some (Cursor.mk (b :: past) text groups) else none).bind
        (Cursor.stepAll? same cs)).isSome ↔ _
      -- the first letters agree and the part begins with it, or there is no part
      by_cases equal : same a b = true
      · rw [if_pos equal, Option.bind_some, ih]
        constructor
        · intro ⟨part, after, h, agree⟩
          exact ⟨b :: part, after, congrArg (b :: ·) h, .cons equal agree⟩
        · intro ⟨part, after, h, agree⟩
          cases agree with
          | cons _ agree =>
            rw [List.cons_append, List.cons.injEq] at h
            exact ⟨_, after, h.2, agree⟩
      · rw [if_neg equal, Option.bind_none]
        constructor
        · intro h
          cases h
        · intro ⟨part, after, h, agree⟩
          cases agree with
          | cons agrees _ =>
            rw [List.cons_append, List.cons.injEq] at h
            rw [← h.1] at agrees
            exact absurd agrees equal

theorem run_literal (f : PatternFlags) (cs : List Char) (c : Cursor) (k : Continuation) :
    (Node.literal cs).run f c k = (c.stepAll? f.sameChar cs).bind k := by
  induction cs generalizing c with
  | nil => rfl
  | cons a cs ih =>
    have head : (Node.literal (a :: cs)).run f c k =
        (c.step? (f.sameChar a)).bind fun c' => (Node.literal cs).run f c' k := rfl
    rw [head, Cursor.stepAll?, Option.bind_assoc]
    congr 1
    funext c'
    exact ih c'

theorem foundFrom_literal (f : PatternFlags) (cs : List Char) (past text : List Char) :
    (Node.literal cs).foundFrom f past text = true ↔
      ∃ before part after, text = before ++ part ++ after ∧
        List.Forall₂ (fun a b => f.sameChar a b = true) cs part := by
  have here (past text : List Char) : ((Node.literal cs).run f ⟨past, text, []⟩ some).isSome ↔
      ∃ part after, text = part ++ after ∧ List.Forall₂ (fun a b => f.sameChar a b = true) cs part := by
    rw [run_literal, Option.bind_fun_some, isSome_stepAll?]
  induction text generalizing past with
  | nil =>
    rw [Node.foundFrom, here]
    constructor
    · intro ⟨part, after, h, agree⟩
      exact ⟨[], part, after, h, agree⟩
    · intro ⟨before, part, after, h, agree⟩
      simp only [List.nil_eq, List.append_eq_nil_iff] at h
      obtain ⟨⟨_, rfl⟩, rfl⟩ := h
      exact ⟨[], [], rfl, agree⟩
  | cons d rest ih =>
    rw [Node.foundFrom, Bool.or_eq_true, here]
    constructor
    · intro h
      rcases h with ⟨part, after, h, agree⟩ | later
      · exact ⟨[], part, after, h, agree⟩
      · obtain ⟨before, part, after, h, agree⟩ := (ih (d :: past)).1 later
        exact ⟨d :: before, part, after, congrArg (d :: ·) h, agree⟩
    · intro ⟨before, part, after, h, agree⟩
      -- the part begins at this character or behind it
      cases before with
      | nil => exact .inl ⟨part, after, h, agree⟩
      | cons b before =>
        rw [List.cons_append, List.cons_append, List.cons.injEq] at h
        exact .inr ((ih (d :: past)).2 ⟨before, part, after, h.2, agree⟩)

/-- A text that is spelled out is found where a part of the other text is the same letter by letter. -/
theorem foundIn_literal (f : PatternFlags) (cs text : List Char) :
    (Node.literal cs).foundIn f text = true ↔
      ∃ before part after, text = before ++ part ++ after ∧
        List.Forall₂ (fun a b => f.sameChar a b = true) cs part :=
  foundFrom_literal f cs [] text

end Pattern

/-! ## A text is found in itself -/

theorem Text.mem_caseGroup_self (c : Char) : c ∈ caseGroup c := by
  rw [caseGroup]
  split
  · rename_i group found
    have inside := List.find?_some found
    rw [List.contains_iff_mem] at inside
    exact List.mem_map.2 ⟨_, inside, Char.ofNat_toNat _⟩
  · exact List.mem_singleton_self c

theorem Text.sameLetter_self (c : Char) : Text.sameLetter c c = true :=
  List.contains_iff_mem.2 (mem_caseGroup_self (lower c))

theorem Pattern.found_inAnyCase_self (text : String) : (inAnyCase text).found text = true := by
  have letters : List.Forall₂ (fun a b => PatternFlags.caseless.sameChar a b = true)
      text.toList text.toList :=
    List.forall₂_same.2 fun c _ => Text.sameLetter_self c
  exact (foundIn_literal _ _ _).2 ⟨[], text.toList, [], by simp, letters⟩

end RecordQuery
