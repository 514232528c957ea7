import RecordQuery.Proofs.NameCoherence
/-!
What the key of a bare name finds: its token as a part of the text of a value, in any case.

Two characters are the same letter if the letters that count as the lower-case form of each are the same
(`sameLetter_iff`), which makes "the same letter" an equivalence. A text has a token in any case if a part of
it is the token, letter by letter (`HasInAnyCase`). Nothing else about the token matters: whatever a pattern
would take for an operator, a class or layout is escaped (`compile?_escape`), so that the key finds exactly
the values with the token in their text (`bareKey_finds`), and no value that is nothing. A value that cannot
be shown has no text, and the search fails as showing it does.
-/

namespace RecordQuery

namespace Text

/-! ## The same letter -/

/-- The groups have no letter in common: each of their letters leads back to its group. -/
theorem find?_sharedCapitals {group : List Nat} (listed : group ∈ sharedCapitals) {n : Nat} (inside : n ∈ group) :
    sharedCapitals.find? (·.contains n) = some group ∧ (Char.ofNat n).toNat = n := by
  have all : ∀ group ∈ sharedCapitals, ∀ n ∈ group,
      sharedCapitals.find? (·.contains n) = some group ∧ (Char.ofNat n).toNat = n := by decide
  exact all group listed n inside

theorem caseGroup_eq_of_mem {c d : Char} (h : d ∈ caseGroup c) : caseGroup d = caseGroup c := by
  cases found : sharedCapitals.find? (·.contains c.toNat) with
  | none =>
    have alone : caseGroup c = [c] := by rw [caseGroup, found]
    rw [alone, List.mem_singleton] at h
    rw [h]
  | some group =>
    have shared : caseGroup c = group.map Char.ofNat := by rw [caseGroup, found]
    rw [shared] at h ⊢
    obtain ⟨n, inside, rfl⟩ := List.mem_map.1 h
    obtain ⟨back, code⟩ := find?_sharedCapitals (List.mem_of_find?_eq_some found) inside
    rw [caseGroup, code, back]

theorem sameLetter_iff {c d : Char} : sameLetter c d = true ↔ caseGroup (lower c) = caseGroup (lower d) := by
  rw [sameLetter, List.contains_iff_mem]
  constructor
  · exact fun inside => (caseGroup_eq_of_mem inside).symm
  · intro same
    rw [same]
    exact mem_caseGroup_self (lower d)

theorem sameLetter_equivalence : Equivalence fun c d => sameLetter c d = true where
  refl c := sameLetter_self c
  symm h := sameLetter_iff.2 (sameLetter_iff.1 h).symm
  trans h₁ h₂ := sameLetter_iff.2 ((sameLetter_iff.1 h₁).trans (sameLetter_iff.1 h₂))

/-! ## Texts in any case -/

def SameLetters (cs ds : List Char) : Prop := List.Forall₂ (fun c d => sameLetter c d = true) cs ds

theorem SameLetters.symm {cs ds : List Char} (h : SameLetters cs ds) : SameLetters ds cs :=
  (List.Forall₂.imp (fun _ _ => sameLetter_equivalence.symm) h).flip

theorem SameLetters.trans {cs ds es : List Char} (h₁ : SameLetters cs ds) (h₂ : SameLetters ds es) :
    SameLetters cs es := by
  induction h₁ generalizing es with
  | nil => exact h₂
  | cons same _ ih =>
    obtain ⟨e, rest, same', others, rfl⟩ := List.forall₂_cons_left_iff.1 h₂
    exact .cons (sameLetter_equivalence.trans same same') (ih others)

/-- A part of the text, as long as the token, is the token letter by letter. -/
def HasInAnyCase (text token : String) : Prop :=
  ∃ before part after, text.toList = before ++ part ++ after ∧ SameLetters token.toList part

theorem HasInAnyCase.congr {text token token' : String} (same : SameLetters token.toList token'.toList) :
    HasInAnyCase text token ↔ HasInAnyCase text token' := by
  constructor
  · intro ⟨before, part, after, split, letters⟩
    exact ⟨before, part, after, split, same.symm.trans letters⟩
  · intro ⟨before, part, after, split, letters⟩
    exact ⟨before, part, after, split, same.trans letters⟩

end Text

theorem Pattern.found_inAnyCase {token text : String} :
    (inAnyCase token).found text = true ↔ Text.HasInAnyCase text token := foundIn_literal _ _ _

theorem Matcher.foundIn_of_ne_none {p : Pattern} {v : Value} (some : v ≠ .none) :
    foundIn p v = (do return p.found (← Checked.ofMethod v.str)) := by
  cases v with
  | none => exact absurd rfl some
  | _ => rfl

section
variable [Answers]

theorem Matcher.check_pattern {p : Pattern} {v : Value} {text : String} (some : v ≠ .none)
    (shown : v.str = .ok text) : ((Matcher.pattern p).check v).outcome = .ok (p.found text) := by
  rw [check, Run.outcome_ofChecked, foundIn_of_ne_none some, shown]
  rfl

theorem Matcher.check_pattern_of_fault {p : Pattern} {v : Value} {fault : Raised} (some : v ≠ .none)
    (unshown : v.str = .error fault) : ((Matcher.pattern p).check v).outcome = .error fault.failure := by
  rw [check, Run.outcome_ofChecked, foundIn_of_ne_none some, unshown]
  rfl

theorem Matcher.accepts_of_failure {m : Matcher} {v : Value} {e : Failure}
    (h : m.expected.isEqual v = .error e) : (m.accepts v).outcome = .error e := by
  rw [accepts, Run.outcome_bind, Run.outcome_ofChecked, h]
  rfl

/-! ## What the key finds -/

/-- What is accepted for a key that finds a token in any case. Values that equal the key itself are accepted,
and a comparison with the key that fails is a failure; that is so for every key. -/
structure FindsToken (key : Value) (m : Matcher) (token : String) : Prop where
  classified : Matcher.ofExpected key = .ok m
  /-- Any other value is accepted if its text has the token, in any case, and refused if not. -/
  unequal : ∀ v text, v ≠ .none → key.isEqual v = .ok false → v.str = .ok text →
    ∃ b, (m.accepts v).outcome = .ok b ∧ (b = true ↔ Text.HasInAnyCase text token)
  untold : ∀ v fault, v ≠ .none → key.isEqual v = .ok false → v.str = .error fault →
    (m.accepts v).outcome = .error fault.failure
  equal : ∀ v, key.isEqual v = .ok true → (m.accepts v).outcome = .ok true
  incomparable : ∀ v e, key.isEqual v = .error e → (m.accepts v).outcome = .error e
  nothing : (m.accepts .none).outcome = .ok false
  /-- A record is checked by what it has under a name. -/
  entry : ∀ record name v, (Value.read record name).outcome = .ok v →
    (Search.checkEntry record (name, m)).outcome = (m.accepts v.orNone).outcome
  /-- A record without the attribute is refused, and so is one with nothing for it. -/
  absent : ∀ record name v, (Value.read record name).outcome = .ok v → v.orNone = .none →
    (Search.checkEntry record (name, m)).outcome = .ok false
  /-- The case of the token does not matter. -/
  any_case : ∀ token', Text.SameLetters token.toList token'.toList → ∀ v text, v ≠ .none →
    key.isEqual v = .ok false → v.str = .ok text →
      ∃ b, (m.accepts v).outcome = .ok b ∧ (b = true ↔ Text.HasInAnyCase text token')

theorem findsToken_inAnyCase (token : String) :
    FindsToken (.pattern (Pattern.inAnyCase token)) (.pattern (Pattern.inAnyCase token)) token := by
  have unequal (v : Value) (text : String) (some : v ≠ .none)
      (h : (Value.pattern (Pattern.inAnyCase token)).isEqual v = .ok false) (shown : v.str = .ok text) :
      ∃ b, ((Matcher.pattern (Pattern.inAnyCase token)).accepts v).outcome = .ok b ∧
        (b = true ↔ Text.HasInAnyCase text token) := by
    refine ⟨_, ?_, Pattern.found_inAnyCase⟩
    rw [Matcher.accepts_of_unequal (m := .pattern _) h, Matcher.check_pattern some shown]
  have untold (v : Value) (fault : Raised) (some : v ≠ .none)
      (h : (Value.pattern (Pattern.inAnyCase token)).isEqual v = .ok false) (unshown : v.str = .error fault) :
      ((Matcher.pattern (Pattern.inAnyCase token)).accepts v).outcome = .error fault.failure := by
    rw [Matcher.accepts_of_unequal (m := .pattern _) h, Matcher.check_pattern_of_fault some unshown]
  -- a record without the attribute is checked for nothing, which has no text
  have nothing : ((Matcher.pattern (Pattern.inAnyCase token)).accepts .none).outcome = .ok false :=
    Matcher.accepts_of_unequal rfl
  refine ⟨rfl, unequal, untold, fun v => Matcher.accepts_of_equal (m := .pattern _),
    fun v e => Matcher.accepts_of_failure (m := .pattern _), nothing, ?_, ?_, ?_⟩
  · intro record name v read
    exact Run.outcome_bind_of_ok read _
  · intro record name v read none
    have checked := Run.outcome_bind_of_ok read
      fun actual => (Matcher.pattern (Pattern.inAnyCase token)).accepts actual.orNone
    rw [none, nothing] at checked
    exact checked
  · intro token' same v text some h shown
    obtain ⟨b, accepted, found⟩ := unequal v text some h shown
    exact ⟨b, accepted, found.trans (Text.HasInAnyCase.congr same)⟩

/-- The key of a bare name without `!` finds its token in any case. -/
theorem bareKey_finds (n : DynamicName) (inexact : n.exact = false) :
    ∃ m, FindsToken (Collection.bareKey n) m n.token := by
  rw [Collection.bareKey_eq, inexact, if_neg Bool.false_ne_true]
  exact ⟨_, findsToken_inAnyCase n.token⟩

end

/-- The dot is a dot, and the long s is an s. -/
theorem bareKey_finds_dotted :
    let n := DynamicName.parse "a.ſ"
    n.exact = false ∧ ∃ m, Matcher.ofExpected (Collection.bareKey n) = .ok m ∧
      (m.accepts (.text "xA.Sy")).outcome = .ok true ∧ (m.accepts (.text "aXs")).outcome = .ok false ∧
      (m.accepts .none).outcome = .ok false := by
  intro n
  have inexact : n.exact = false := rfl
  have token : n.token = "a.ſ" := rfl
  have key : Collection.bareKey n = .pattern (Pattern.inAnyCase "a.ſ") := by
    rw [Collection.bareKey_eq, inexact, token, if_neg Bool.false_ne_true]
  obtain ⟨m, finds⟩ := bareKey_finds n inexact
  rw [key, token] at finds
  have dotted : Text.HasInAnyCase "xA.Sy" "a.ſ" := Pattern.found_inAnyCase.1 (by decide)
  have undotted : ¬ Text.HasInAnyCase "aXs" "a.ſ" := by
    rw [← Pattern.found_inAnyCase]
    decide
  obtain ⟨b, accepted, yes⟩ := finds.unequal (.text "xA.Sy") _ nofun rfl rfl
  obtain ⟨b', refused, no⟩ := finds.unequal (.text "aXs") _ nofun rfl rfl
  rw [yes.2 dotted] at accepted
  rw [Bool.eq_false_iff.2 fun found => undotted (no.1 found)] at refused
  rw [key]
  exact ⟨inexact, m, finds.classified, accepted, refused, finds.nothing⟩

end RecordQuery
