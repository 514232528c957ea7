import Mathlib.Data.List.Nodup
import RecordQuery.Validation.Template
/-!
Placeholders filled in all at once, and one entry at a time.

A text can be filled in from a context all at once: each placeholder that it has gives way to the text of its entry,
and what comes from an entry is not read again (`substitute`). With one entry more, what is filled in is the same but
for the placeholders of that entry (`swapped_substitute`). A step that fills them in afterwards makes these changes
and no others exactly if it finds as many placeholders of the entry as the text had at first (`step_iff`).
-/

namespace RecordQuery
namespace Template

/-! ## Filling in all at once -/

def entryAt? (context : List (String × Value)) (text : List Char) : Option (String × Value) :=
  context.find? fun e => (placeholder e.1).isPrefixOf text

/-- Puts the texts of the entries in the places of their placeholders, from the left. `skip` characters are what is
left of a placeholder that was replaced just before. -/
def substituteFrom (context : List (String × Value)) : (skip : Nat) → List Char → List Char
  | _, [] => []
  | skip + 1, _ :: rest => substituteFrom context skip rest
  | 0, c :: rest =>
    match entryAt? context (c :: rest) with
    | some e => (valueText e.2).toList ++ substituteFrom context ((placeholder e.1).length - 1) rest
    | none => c :: substituteFrom context 0 rest

/-- A text with all placeholders of a context filled in at once. Nothing that is filled in is read again. -/
def substitute (context : List (String × Value)) (text : List Char) : List Char :=
  substituteFrom context 0 text

def occurrences (part text : List Char) : Nat := text.tails.countP fun rest => part.isPrefixOf rest

def Bare (name : String) : Prop := '\x7b' ∉ name.toList ∧ '\x7d' ∉ name.toList

instance (name : String) : Decidable (Bare name) := inferInstanceAs (Decidable (_ ∧ _))

/-- The entries of a context have names of their own, without braces. -/
structure WellNamed (context : List (String × Value)) : Prop where
  nodup : (context.map (·.1)).Nodup
  bare : ∀ e ∈ context, Bare e.1

/-! ## Placeholders -/

section
variable {name other : String} {part text rest q : List Char} {c : Char}

theorem placeholder_append (name : String) (rest : List Char) :
    placeholder name ++ rest = '\x7b' :: (name.toList ++ '\x7d' :: rest) := by
  simp [placeholder]

theorem closed_prefix_iff {a b : List Char} (ha : '\x7d' ∉ a) (hb : '\x7d' ∉ b) :
    a ++ ['\x7d'] <+: b ++ '\x7d' :: rest ↔ a = b := by
  induction a generalizing b with
  | nil =>
    cases b with
    | nil => simp
    | cons y b =>
      have other : '\x7d' ≠ y := fun same => hb (same ▸ List.mem_cons_self)
      simp [List.cons_prefix_cons, other]
  | cons x a ih =>
    cases b with
    | nil =>
      have other : x ≠ '\x7d' := fun same => ha (same ▸ List.mem_cons_self)
      simp [List.cons_prefix_cons, other]
    | cons y b =>
      have rest_same := ih (fun h => ha (List.mem_cons_of_mem x h)) (fun h => hb (List.mem_cons_of_mem y h))
      rw [List.cons_append, List.cons_append, List.cons_prefix_cons, rest_same, List.cons.injEq]

theorem placeholder_prefix_iff (h : Bare name) (unclosed : '\x7d' ∉ q) :
    placeholder name <+: '\x7b' :: (q ++ '\x7d' :: rest) ↔ name.toList = q := by
  rw [placeholder, List.cons_prefix_cons, closed_prefix_iff h.2 unclosed]
  simp

theorem placeholder_prefix_placeholder (h : Bare name) (h' : Bare other) :
    placeholder name <+: placeholder other ++ rest ↔ name = other := by
  rw [placeholder_append, placeholder_prefix_iff h h'.2, String.toList_inj]

theorem opens_of_begins (h : placeholder name <+: c :: rest) : c = '\x7b' :=
  (List.cons_prefix_cons.1 h).1.symm

/-! ## Places of a placeholder -/

theorem occurrences_cons :
    occurrences part (c :: rest) = occurrences part rest + if part <+: c :: rest then 1 else 0 := by
  simp [occurrences, List.tails, List.countP_cons]

theorem occurrences_char (h : ¬ part <+: c :: rest) : occurrences part (c :: rest) = occurrences part rest := by
  rw [occurrences_cons, if_neg h, Nat.add_zero]

theorem occurrences_plain (h : '\x7b' ∉ q) :
    occurrences (placeholder name) (q ++ rest) = occurrences (placeholder name) rest := by
  induction q with
  | nil => rfl
  | cons c q ih =>
    have other : ¬ placeholder name <+: c :: (q ++ rest) := fun begins =>
      h (opens_of_begins begins ▸ List.mem_cons_self)
    rw [List.cons_append, occurrences_char other, ih fun there => h (List.mem_cons_of_mem c there)]

theorem occurrences_placeholder (h : Bare other) :
    occurrences (placeholder name) (placeholder other ++ rest) =
      occurrences (placeholder name) rest + if placeholder name <+: placeholder other ++ rest then 1 else 0 := by
  have plain : '\x7b' ∉ other.toList ++ ['\x7d'] := by simp [h.1]
  have split : placeholder other ++ rest = '\x7b' :: (other.toList ++ ['\x7d'] ++ rest) := rfl
  rw [split, occurrences_cons, occurrences_plain plain]

end

/-! ## One step -/

section
variable {context before : List (String × Value)} {e : String × Value} {name : String}
  {text rest q : List Char} {c : Char}

theorem entryAt?_eq_none : entryAt? context text = none ↔ ∀ e ∈ context, ¬ placeholder e.1 <+: text := by
  simp [entryAt?]

theorem entryAt?_concat_eq_none :
    entryAt? (before ++ [e]) text = none ↔ entryAt? before text = none ∧ ¬ placeholder e.1 <+: text := by
  simp only [entryAt?_eq_none, List.forall_mem_append, List.forall_mem_singleton]

theorem entryAt?_placeholder (well : WellNamed context) (listed : e ∈ context) :
    entryAt? context (placeholder e.1 ++ rest) = some e := by
  cases found : entryAt? context (placeholder e.1 ++ rest) with
  | none => exact absurd (List.prefix_append ..) (entryAt?_eq_none.1 found e listed)
  | some e' =>
    have listed' : e' ∈ context := List.mem_of_find?_eq_some found
    have begins : placeholder e'.1 <+: placeholder e.1 ++ rest := by
      simpa using List.find?_some found
    have same := (placeholder_prefix_placeholder (well.bare e' listed') (well.bare e listed)).1 begins
    rw [List.inj_on_of_nodup_map well.nodup listed' listed same]

theorem substituteFrom_length (q rest : List Char) :
    substituteFrom context q.length (q ++ rest) = substitute context rest := by
  induction q with
  | nil => rfl
  | cons c q ih => exact ih

theorem substitute_char (h : entryAt? context (c :: rest) = none) :
    substitute context (c :: rest) = c :: substitute context rest := by
  rw [substitute, substituteFrom, h]
  rfl

theorem substitute_plain (h : '\x7b' ∉ q) : substitute context (q ++ rest) = q ++ substitute context rest := by
  induction q with
  | nil => rfl
  | cons c q ih =>
    have none_begins : entryAt? context (c :: (q ++ rest)) = none :=
      entryAt?_eq_none.2 fun e _ begins => h (opens_of_begins begins ▸ List.mem_cons_self)
    rw [List.cons_append, substitute_char none_begins, ih fun there => h (List.mem_cons_of_mem c there)]
    rfl

theorem substitute_placeholder (well : WellNamed context) (listed : e ∈ context) :
    substitute context (placeholder e.1 ++ rest) = (valueText e.2).toList ++ substitute context rest := by
  have found : entryAt? context (placeholder e.1 ++ rest) = some e := entryAt?_placeholder well listed
  rw [placeholder, List.cons_append] at found ⊢
  rw [substitute, substituteFrom, found]
  show _ ++ substituteFrom context (e.1.toList ++ ['\x7d']).length _ = _
  rw [substituteFrom_length]

theorem substitute_other (well : ∀ e ∈ context, Bare e.1) (h : Bare name) (new : name ∉ context.map (·.1)) :
    substitute context (placeholder name ++ rest) = placeholder name ++ substitute context rest := by
  have none_begins : entryAt? context (placeholder name ++ rest) = none :=
    entryAt?_eq_none.2 fun e listed begins =>
      new (List.mem_map.2 ⟨e, listed, (placeholder_prefix_placeholder (well e listed) h).1 begins⟩)
  have plain : '\x7b' ∉ name.toList ++ ['\x7d'] := by simp [h.1]
  rw [placeholder, List.cons_append] at none_begins ⊢
  rw [substitute_char none_begins, substitute_plain plain, List.cons_append]

theorem fillOne_eq (text : List Char) (name : String) (v : Value) :
    fillOne text name v = substitute [(name, v)] text := by
  have same (skip : Nat) : replaceAll (placeholder name) (valueText v).toList skip text =
      substituteFrom [(name, v)] skip text := by
    induction text generalizing skip with
    | nil => rfl
    | cons c rest ih =>
      cases skip with
      | succ skip => exact ih skip
      | zero =>
        rw [replaceAll, substituteFrom, entryAt?, List.find?_singleton]
        split
        · exact congrArg _ (ih _)
        · exact congrArg _ (ih _)
  exact same 0

end

/-! ## What a step changes -/

/-- Two texts that are the same but for a number of places, where one has a part and the other one a new text. -/
inductive Swapped (part new : List Char) : Nat → List Char → List Char → Prop
  | nil : Swapped part new 0 [] []
  | char {places : Nat} {text text' : List Char} (c : Char) (h : Swapped part new places text text') :
    Swapped part new places (c :: text) (c :: text')
  | place {places : Nat} {text text' : List Char} (h : Swapped part new places text text') :
    Swapped part new (places + 1) (part ++ text) (new ++ text')

section
variable {part new text text' q rest : List Char} {places : Nat} {e : String × Value}
  {context before : List (String × Value)}

theorem Swapped.append (q : List Char) (h : Swapped part new places text text') :
    Swapped part new places (q ++ text) (q ++ text') := by
  induction q with
  | nil => exact h
  | cons c q ih => exact .char c ih

theorem Swapped.length (h : Swapped part new places text text') :
    text'.length + places * part.length = text.length + places * new.length := by
  induction h with
  | nil => simp
  | char c _ ih =>
    simp only [List.length_cons]
    omega
  | place _ ih =>
    simp only [List.length_append, Nat.succ_mul]
    omega

/-- A part and a new text that make the same difference in two numbers of places have the same length. -/
theorem Swapped.length_eq {more : Nat} (h : Swapped part new places text text')
    (h' : Swapped part new more text text') (lt : places < more) : new.length = part.length := by
  have length := h.length
  have length' := h'.length
  obtain ⟨d, extra⟩ := Nat.exists_eq_add_of_lt lt
  rw [extra, Nat.add_assoc, Nat.add_mul, Nat.add_mul places] at length'
  have rest_same : (d + 1) * new.length = (d + 1) * part.length := by omega
  exact Nat.eq_of_mul_eq_mul_left (Nat.succ_pos d) rest_same

theorem Swapped.begins {c : Char} (h : Swapped (c :: part) new places text text') (other : c ∉ q)
    (begins : q <+: text) : q <+: text' := by
  induction h generalizing q with
  | nil => exact begins
  | char d h ih =>
    rcases List.prefix_cons_iff.1 begins with rfl | ⟨q, rfl, begins'⟩
    · exact List.nil_prefix
    · exact List.cons_prefix_cons.2 ⟨rfl, ih (fun there => other (List.mem_cons_of_mem d there)) begins'⟩
  | place h ih =>
    rcases List.prefix_cons_iff.1 begins with rfl | ⟨q, rfl, begins⟩
    · exact List.nil_prefix
    · exact absurd List.mem_cons_self other

/-- A text is read from the left: it begins with the placeholder of an entry, or with a character that begins
none. -/
theorem reading_induction {motive : List Char → Prop} (context : List (String × Value)) (nil : motive [])
    (placed : ∀ e ∈ context, ∀ rest, motive rest → motive (placeholder e.1 ++ rest))
    (char : ∀ c rest, entryAt? context (c :: rest) = none → motive rest → motive (c :: rest)) :
    ∀ text, motive text
  | [] => nil
  | c :: rest => by
    cases found : entryAt? context (c :: rest) with
    | none => exact char c rest found (reading_induction context nil placed char rest)
    | some e =>
      have begins : placeholder e.1 <+: c :: rest := by simpa using List.find?_some found
      obtain ⟨more, same⟩ := begins
      have shorter : more.length < (c :: rest).length := by
        rw [← same, placeholder, List.cons_append, List.length_cons, List.length_append]
        omega
      rw [← same]
      exact placed e (List.mem_of_find?_eq_some found) more (reading_induction context nil placed char more)
termination_by text => text.length
decreasing_by
  · exact Nat.lt_succ_self rest.length
  · exact shorter

theorem WellNamed.initial (well : WellNamed context) (listed : before <+: context) : WellNamed before where
  nodup := well.nodup.sublist (listed.sublist.map _)
  bare e there := well.bare e (listed.mem there)

theorem WellNamed.front (well : WellNamed (before ++ [e])) : WellNamed before :=
  well.initial (List.prefix_append before [e])

theorem WellNamed.last_new (well : WellNamed (before ++ [e])) : e.1 ∉ before.map (·.1) := by
  have nodup := well.nodup
  rw [List.map_append, List.nodup_append] at nodup
  exact fun there => nodup.2.2 _ there _ List.mem_cons_self rfl

theorem WellNamed.bare_last (well : WellNamed (before ++ [e])) : Bare e.1 :=
  well.bare e (List.mem_append_right _ List.mem_cons_self)

/-- With one entry more, a template is filled in the same way but for the placeholders of the entry. -/
theorem swapped_substitute (well : WellNamed (before ++ [e])) (text : List Char) :
    Swapped (placeholder e.1) (valueText e.2).toList (occurrences (placeholder e.1) text)
      (substitute before text) (substitute (before ++ [e]) text) := by
  induction text using reading_induction (before ++ [e]) with
  | nil => exact .nil
  | placed placed listed rest ih =>
    have bare := well.bare placed listed
    rw [substitute_placeholder well listed, occurrences_placeholder bare]
    simp only [placeholder_prefix_placeholder well.bare_last bare]
    rcases List.mem_append.1 listed with listed | last
    · have other : e.1 ≠ placed.1 := fun same => well.last_new (same ▸ List.mem_map_of_mem listed)
      rw [substitute_placeholder well.front listed, if_neg other]
      exact ih.append _
    · obtain rfl := List.mem_singleton.1 last
      rw [substitute_other well.front.bare bare well.last_new, if_pos rfl]
      exact .place ih
  | char c rest none_begins ih =>
    obtain ⟨none_before, not_last⟩ := entryAt?_concat_eq_none.1 none_begins
    rw [substitute_char none_begins, substitute_char none_before, occurrences_char not_last]
    exact .char c ih

theorem substitute_none (text : List Char) : substitute [] text = text := by
  induction text with
  | nil => rfl
  | cons c rest ih => rw [substitute_char rfl, ih]

theorem wellNamed_singleton (h : Bare e.1) : WellNamed [e] where
  nodup := List.nodup_singleton e.1
  bare _ listed := List.mem_singleton.1 listed ▸ h

theorem swapped_entry (h : Bare e.1) (text : List Char) :
    Swapped (placeholder e.1) (valueText e.2).toList (occurrences (placeholder e.1) text) text
      (substitute [e] text) := by
  have swapped := @swapped_substitute e [] (wellNamed_singleton h) text
  rwa [substitute_none] at swapped

theorem Swapped.le_occurrences (h : Bare e.1) (swapped : Swapped (placeholder e.1) new places text text') :
    places ≤ occurrences (placeholder e.1) text := by
  induction swapped with
  | nil => exact Nat.zero_le _
  | char c _ ih =>
    rw [occurrences_cons]
    omega
  | place _ ih =>
    rw [occurrences_placeholder h, if_pos (List.prefix_append ..)]
    omega

theorem substitute_eq_swapped_iff (h : Bare e.1) (changes : (valueText e.2).toList ≠ placeholder e.1)
    (swapped : Swapped (placeholder e.1) (valueText e.2).toList places text text') :
    substitute [e] text = text' ↔ occurrences (placeholder e.1) text = places := by
  induction swapped with
  | nil => exact iff_of_true rfl rfl
  | place _ ih =>
    rw [substitute_placeholder (wellNamed_singleton h) List.mem_cons_self, List.append_cancel_left_eq, ih,
      occurrences_placeholder h, if_pos (List.prefix_append ..), Nat.add_right_cancel_iff]
  | @char places text text' c swapped ih =>
    by_cases begins : placeholder e.1 <+: c :: text
    · -- the placeholder is completed here, by text that is none of its places
      have more : places < occurrences (placeholder e.1) (c :: text) := by
        have least := swapped.le_occurrences h
        rw [occurrences_cons, if_pos begins]
        omega
      refine iff_of_false (fun same => changes ?_) (Nat.ne_of_gt more)
      have begins' : placeholder e.1 <+: c :: text' := by
        obtain ⟨brace, inside⟩ := List.cons_prefix_cons.1 begins
        exact List.cons_prefix_cons.2 ⟨brace, swapped.begins (by simp [h.1]) inside⟩
      have filled := swapped_entry h (c :: text)
      rw [same] at filled
      obtain ⟨rest, split⟩ := begins
      obtain ⟨rest', split'⟩ := begins'
      rw [← split, substitute_placeholder (wellNamed_singleton h) List.mem_cons_self, ← split'] at same
      exact (List.append_inj same ((swapped.char c).length_eq filled more)).1
    · have none_begins : entryAt? [e] (c :: text) = none :=
        entryAt?_eq_none.2 fun other listed => List.mem_singleton.1 listed ▸ begins
      rw [substitute_char none_begins, List.cons.injEq, ih, occurrences_char begins]
      simp

theorem swapped_self (swapped : Swapped part part places text text') : text' = text := by
  induction swapped with
  | nil => rfl
  | char c _ ih => rw [ih]
  | place _ ih => rw [ih]

/-- A step fills in what the template has, and nothing else, exactly if the text has as many placeholders of the
entry as the template. -/
theorem step_iff (well : WellNamed (before ++ [e])) (text : List Char) :
    substitute [e] (substitute before text) = substitute (before ++ [e]) text ↔
      occurrences (placeholder e.1) (substitute before text) = occurrences (placeholder e.1) text ∨
        (valueText e.2).toList = placeholder e.1 := by
  have swapped := swapped_substitute well text
  by_cases changes : (valueText e.2).toList = placeholder e.1
  · have again := swapped_entry well.bare_last (substitute before text)
    rw [changes] at swapped again
    rw [swapped_self swapped, swapped_self again]
    exact iff_of_true rfl (.inr changes)
  · rw [substitute_eq_swapped_iff well.bare_last changes swapped, or_iff_left changes]

-- the text of the first entry is a placeholder of the second one, which the template does not have
example : substitute [("a", .text "\x7bb\x7d"), ("b", .text "x")] "\x7ba\x7d".toList = "\x7bb\x7d".toList ∧
    substitute [("b", .text "x")] (substitute [("a", .text "\x7bb\x7d")] "\x7ba\x7d".toList) = "x".toList := by
  decide

end

end Template
end RecordQuery
