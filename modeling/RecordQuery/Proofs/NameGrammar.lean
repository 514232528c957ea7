import RecordQuery.Proofs.NamePatterns
import RecordQuery.Proofs.SplitNames
/-!
The grammar of dynamic names.

The grammar says what the parts of a name are, without saying how they are found (`Reads`): a finder name is
the beginning of one, a segment that is more than separators, and a mark perhaps; another name is a token and
a mark perhaps; and a name with a line feed inside is taken as it is. Every name has one reading, which is the
one that the parser gives, and the parser takes for finder names those that the grammar does
(`names_follow_grammar`). The patterns of names, with their lazy group, give the same reading.
-/

namespace RecordQuery
namespace DynamicName

/-- A name without the line feed at its end is a finder name: it begins like one, something follows, and
what is left of that without the mark is more than separators. -/
structure FinderBody (body : List Char) (reach : Reach) (segment : List Char) (mark : Option Mark) : Prop where
  one_line : '\n' ∉ body
  parts : ∃ rest, body = Reach.start reach ++ rest ∧ rest ≠ [] ∧ Marked rest segment mark
  named : ¬ IsSeparators segment

def IsFinderName (name : String) : Prop :=
  ∃ reach segment mark, FinderBody (dropLineFeed name.toList) reach segment mark

/-- The readings of a name, by the grammar. -/
inductive Reads (name : String) : DynamicName → Prop
  /-- The attributes of a finder name are the pieces of its segment that are not empty. -/
  | finder {reach : Reach} {segment : List Char} {mark : Option Mark} {pieces : List (List Char)}
      (body : FinderBody (dropLineFeed name.toList) reach segment mark) (cut : Cut segment pieces) :
      Reads name { name, reach, attributes := namesOf pieces,
                   token := if mark.isSome then String.ofList name.toList.dropLast else name, mark,
                   exact := true, answersWhether := false }
  /-- A name of one line that is no finder name is a token with a mark perhaps. -/
  | bare {token : List Char} {mark : Option Mark} (no_finder : ¬ IsFinderName name)
      (filled : dropLineFeed name.toList ≠ []) (one_line : '\n' ∉ dropLineFeed name.toList)
      (marked : Marked (dropLineFeed name.toList) token mark) :
      Reads name { name, reach := .single, attributes := [], token := String.ofList token, mark,
                   exact := mark = some .bang, answersWhether := mark = some .question }
  /-- Any other name is its own token. -/
  | verbatim (no_line : dropLineFeed name.toList = [] ∨ '\n' ∈ dropLineFeed name.toList) :
      Reads name { name, reach := .single, attributes := [], token := name, mark := none, exact := false,
                   answersWhether := false }

/-! ## Finder names -/

section
variable {name : String} {n : DynamicName} {reach : Reach} {segment : List Char} {mark : Option Mark}

theorem finderOf?_eq_some : finderOf? name reach segment mark = some n ↔
    ¬ IsSeparators segment ∧
      n = { name, reach, attributes := attributesOf segment,
            token := if mark.isSome then String.ofList name.toList.dropLast else name, mark, exact := true,
            answersWhether := false } := by
  have without : (attributesOf segment).isEmpty = true ↔ IsSeparators segment := by
    rw [List.isEmpty_iff, attributesOf_eq_nil]
  unfold finderOf?
  split
  · rename_i only
    exact ⟨nofun, fun h => absurd (without.1 only) h.1⟩
  · rename_i more
    constructor
    · intro made
      exact ⟨mt without.2 more, (Option.some.inj made).symm⟩
    · intro h
      rw [h.2]

theorem finderBody_iff : FinderBody (dropLineFeed name.toList) reach segment mark ↔
    ∃ rest body, name.toList = Reach.start reach ++ rest ∧ body? rest = some body ∧
      splitMark body = (segment, mark) ∧ ¬ IsSeparators segment := by
  have start_line := lineFeed_not_mem_start reach
  constructor
  · intro ⟨one_line, ⟨body, begins, filled, marked⟩, named⟩
    -- the beginning has no line feed, so the name itself begins with it
    have whole : ∃ rest, name.toList = Reach.start reach ++ rest := by
      rcases dropLineFeed_eq name.toList with same | same
      · exact ⟨body, same.trans begins⟩
      · exact ⟨body ++ ['\n'], by rw [same, begins, List.append_assoc]⟩
    obtain ⟨rest, whole⟩ := whole
    rw [whole, dropLineFeed_append start_line] at begins
    rw [whole, dropLineFeed_append start_line, List.mem_append, not_or] at one_line
    have dropped : dropLineFeed rest = body := List.append_cancel_left begins
    refine ⟨rest, body, whole, body?_eq_some_iff.2 ⟨dropped, filled, ?_⟩, marked_iff.1 marked, named⟩
    rw [← dropped]
    exact one_line.2
  · intro ⟨rest, body, whole, inner, split, named⟩
    obtain ⟨dropped, filled, one_line⟩ := body?_eq_some_iff.1 inner
    have begins : dropLineFeed name.toList = Reach.start reach ++ body := by
      rw [whole, dropLineFeed_append start_line, dropped]
    rw [begins]
    exact ⟨by simp [start_line, one_line], ⟨body, rfl, filled, marked_iff.2 split⟩, named⟩

theorem finder?_eq_some_iff : finder? name = some n ↔
    ∃ reach segment mark, FinderBody (dropLineFeed name.toList) reach segment mark ∧
      n = { name, reach, attributes := attributesOf segment,
            token := if mark.isSome then String.ofList name.toList.dropLast else name, mark, exact := true,
            answersWhether := false } := by
  rw [finder?_eq, Option.bind_eq_some_iff]
  constructor
  · rintro ⟨⟨reach, rest⟩, begins, h⟩
    obtain ⟨body, inner, made⟩ := Option.bind_eq_some_iff.1 h
    obtain ⟨named, rfl⟩ := finderOf?_eq_some.1 made
    exact ⟨reach, _, _, finderBody_iff.2 ⟨rest, body, splitStart?_eq_some.1 begins, inner, rfl, named⟩, rfl⟩
  · rintro ⟨reach, segment, mark, body, rfl⟩
    obtain ⟨rest, body, begins, inner, split, named⟩ := finderBody_iff.1 body
    refine ⟨(reach, rest), splitStart?_eq_some.2 begins, Option.bind_eq_some_iff.2 ⟨body, inner, ?_⟩⟩
    rw [split]
    exact finderOf?_eq_some.2 ⟨named, rfl⟩

theorem isSome_finder?_iff : (finder? name).isSome ↔ IsFinderName name := by
  rw [Option.isSome_iff_exists]
  constructor
  · rintro ⟨n, found⟩
    obtain ⟨reach, segment, mark, body, _⟩ := finder?_eq_some_iff.1 found
    exact ⟨reach, segment, mark, body⟩
  · rintro ⟨reach, segment, mark, body⟩
    exact ⟨_, finder?_eq_some_iff.2 ⟨reach, segment, mark, body, rfl⟩⟩

theorem finder?_eq_none_iff : finder? name = none ↔ ¬ IsFinderName name := by
  rw [← isSome_finder?_iff, Option.not_isSome_iff_eq_none]

theorem begins_of_finder? (h : finder? name = some n) : ∃ rest, name.toList = Reach.start n.reach ++ rest := by
  obtain ⟨reach, segment, mark, body, rfl⟩ := finder?_eq_some_iff.1 h
  obtain ⟨rest, _, whole, _⟩ := finderBody_iff.1 body
  exact ⟨rest, whole⟩

/-- A finder name has an attribute, and none of its attributes is empty or has a separator in it. -/
theorem attributes_of_finder? (h : finder? name = some n) :
    n.attributes ≠ [] ∧ ∀ a ∈ n.attributes, a ≠ "" ∧ ¬ separator <:+: a.toList := by
  refine ⟨(shape_of_finder? h).1, ?_⟩
  obtain ⟨reach, segment, mark, _, rfl⟩ := finder?_eq_some_iff.1 h
  have cut := cut_splitAnd segment
  intro a listed
  obtain ⟨filled, piece⟩ := mem_namesOf.1 (attributesOf_of_cut cut ▸ listed)
  exact ⟨filled, cut.clean _ piece⟩

end

/-! ## Readings -/

section
variable {name : String}

theorem reads_bare (no_finder : ¬ IsFinderName name) : Reads name (bare name) := by
  cases hb : body? name.toList with
  | none =>
    simp only [bare, hb]
    exact .verbatim (body?_eq_none_iff.1 hb)
  | some body =>
    obtain ⟨dropped, filled, one_line⟩ := body?_eq_some_iff.1 hb
    subst dropped
    simp only [bare, hb]
    exact .bare no_finder filled one_line (marked_iff.2 rfl)

theorem reads_parse (name : String) : Reads name (parse name) := by
  cases found : finder? name with
  | none =>
    rw [parse, found]
    exact reads_bare (finder?_eq_none_iff.1 found)
  | some n =>
    obtain ⟨reach, segment, mark, body, rfl⟩ := finder?_eq_some_iff.1 found
    rw [parse, found, attributesOf_of_cut (cut_splitAnd segment)]
    exact .finder body (cut_splitAnd segment)

theorem Reads.parse_eq {n : DynamicName} (h : Reads name n) : parse name = n := by
  cases h with
  | finder body cut =>
    have found := finder?_eq_some_iff.2 ⟨_, _, _, body, rfl⟩
    rw [parse, found, attributesOf_of_cut cut]
    rfl
  | bare no_finder filled one_line marked =>
    have line : body? name.toList = some (dropLineFeed name.toList) :=
      body?_eq_some_iff.2 ⟨rfl, filled, one_line⟩
    rw [parse, finder?_eq_none_iff.2 no_finder, Option.getD_none, DynamicName.bare, line]
    simp only [marked_iff.1 marked]
  | verbatim no_line =>
    have no_finder : ¬ IsFinderName name := by
      rintro ⟨reach, segment, mark, one_line, ⟨rest, begins, _⟩, _⟩
      rcases no_line with empty | lineFeed
      · rw [empty] at begins
        exact start_ne_nil reach (List.append_eq_nil_iff.1 begins.symm).1
      · exact one_line lineFeed
    rw [parse, finder?_eq_none_iff.2 no_finder, Option.getD_none, DynamicName.bare, body?_eq_none_iff.2 no_line]

/-- How a name is read. -/
structure FollowsGrammar (name : String) : Prop where
  /-- It is taken for a finder name exactly if the grammar does so. -/
  finder_iff : (finder? name).isSome ↔ IsFinderName name
  /-- It is read in the one way that the grammar allows. -/
  parse_iff : ∀ n, parse name = n ↔ Reads name n
  /-- A finder name is read so whether or not it is expected to be one. -/
  finder_parse : ∀ n, finder? name = some n ↔ IsFinderName name ∧ Reads name n
  attributes : ∀ n, finder? name = some n →
    n.attributes ≠ [] ∧ ∀ a ∈ n.attributes, a ≠ "" ∧ ¬ separator <:+: a.toList
  finder_pattern : finderByPattern? name = finder? name
  parse_patterns : parseByPatterns name = parse name

/-- Names are read by the grammar, and so they are by the patterns. -/
theorem names_follow_grammar (name : String) : FollowsGrammar name := by
  have parse_iff (n : DynamicName) : parse name = n ↔ Reads name n := by
    constructor
    · rintro rfl
      exact reads_parse name
    · exact Reads.parse_eq
  refine ⟨isSome_finder?_iff, parse_iff, fun n => ?_, fun n => attributes_of_finder?,
    finderByPattern?_eq name, parseByPatterns_eq name⟩
  rw [← isSome_finder?_iff, ← parse_iff n, parse]
  cases finder? name <;> simp

end
end DynamicName
end RecordQuery
