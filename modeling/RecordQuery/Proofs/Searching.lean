import RecordQuery.Criteria
import RecordQuery.Proofs.NamedPairs
import RecordQuery.Proofs.Scanning
/-!
What a search accepts, and what becomes of the entries that it is made of.

A search is the conjunction of its entries: a record passes it exactly if it passes the check of every
entry (`passes_accepts`), and the check of a record fails only as the check of an entry does
(`exists_of_accepts_eq_error`). Matchers put under names one after the other leave the last one under each
name (`mem_putAll`), and a search made again of its own entries is the same search (`ofEntries_entries`).
-/

namespace RecordQuery
namespace Search

/-! ## The entries of a search -/

section
variable [Answers]

/-- The check of one entry: what the record has under the name is put to the matcher. -/
def checkEntry (record : Value) (entry : String × Matcher) : Run Bool := do
  let actual ← record.read entry.1
  entry.2.accepts actual.orNone

def tests (s : Search) (record : Value) : Run Bool := s.accepts record

variable {record : Value} {s : Search}

theorem accepts_cons (entry : String × Matcher) :
    accepts record (entry :: s) =
      checkEntry record entry >>= fun b => if b then accepts record s else pure false :=
  (Run.bind_assoc (record.read entry.1) (fun actual => entry.2.accepts actual.orNone) _).symm

theorem accepts_cons_of_ok {entry : String × Matcher} {b : Bool}
    (h : (checkEntry record entry).outcome = .ok b) :
    (accepts record (entry :: s)).outcome = if b then (accepts record s).outcome else .ok false := by
  rw [accepts_cons, Run.outcome_bind_of_ok h]
  cases b <;> rfl

theorem accepts_eq_true : (accepts record s).outcome = .ok true ↔
    ∀ entry ∈ s, (checkEntry record entry).outcome = .ok true := by
  induction s with
  | nil => simp [accepts]
  | cons entry s ih =>
    rw [List.forall_mem_cons, ← ih]
    constructor
    · intro h
      rw [accepts_cons] at h
      obtain ⟨b, hb, h⟩ := Run.outcome_bind_eq_ok.1 h
      cases b with
      | false => cases h
      | true => exact ⟨hb, h⟩
    · intro ⟨hb, h⟩
      rw [accepts_cons_of_ok hb]
      exact h

theorem passes_tests : Scan.passes s.tests record = s.all (Scan.passes (checkEntry record)) := by
  rw [Bool.eq_iff_iff, Scan.passes_eq_true, List.all_eq_true]
  simp only [Scan.passes_eq_true]
  exact accepts_eq_true

theorem answered_tests (h : ∀ entry ∈ s, Scan.Answered (checkEntry record) entry) :
    Scan.Answered s.tests record := by
  induction s with
  | nil => exact ⟨true, rfl⟩
  | cons entry s ih =>
    obtain ⟨⟨b, hb⟩, rest⟩ := List.forall_mem_cons.1 h
    show ∃ b, (accepts record (entry :: s)).outcome = .ok b
    rw [accepts_cons_of_ok hb]
    cases b with
    | true => exact ih rest
    | false => exact ⟨false, rfl⟩

theorem exists_of_tests_eq_error {e : Failure} (h : (s.tests record).outcome = .error e) :
    ∃ entry ∈ s, (checkEntry record entry).outcome = .error e := by
  induction s with
  | nil => cases h
  | cons entry s ih =>
    rw [tests, accepts_cons] at h
    rcases Run.outcome_bind_eq_error.1 h with he | ⟨b, _, h⟩
    · exact ⟨entry, List.mem_cons_self, he⟩
    · cases b with
      | false =>
        -- the entry refuses the record, and none behind it is checked
        cases h
      | true =>
        obtain ⟨other, ho, he⟩ := ih h
        exact ⟨other, List.mem_cons_of_mem entry ho, he⟩

end

/-! ## Matchers put under names -/

def putAll (s more : Search) : Search := more.foldl (fun s e => s.put e.1 e.2) s

section
variable {s more : Search} {name : String} {m : Matcher}

theorem put_of_mem (h : name ∈ s.names) :
    s.put name m = s.map fun e => if e.1 == name then (name, m) else e := NamedPairs.put_of_mem h

theorem put_of_not_mem (h : name ∉ s.names) : s.put name m = s ++ [(name, m)] := NamedPairs.put_of_not_mem h

theorem names_put : (s.put name m).names = if name ∈ s.names then s.names else s.names ++ [name] :=
  NamedPairs.names_put

theorem nodup_putAll (h : s.names.Nodup) : (s.putAll more).names.Nodup := NamedPairs.nodup_putAll h

/-- What several matchers leave: the last one put under each name, and what was there under the names
that none of them has. -/
theorem mem_putAll {e : String × Matcher} :
    e ∈ s.putAll more ↔ e ∈ lastUnderName more ∨ (e ∈ s ∧ e.1 ∉ more.names) := NamedPairs.mem_putAll

theorem putAll_of_nodup (h : (names (s ++ more)).Nodup) : s.putAll more = s ++ more :=
  NamedPairs.putAll_of_nodup h

end

/-! ## A search made of the entries of a search -/

theorem sameKey_text (a b : String) : (Value.text a).sameKey (.text b) = (a == b) := by
  simp [Value.sameKey, Value.sameKeyLeaf, Value.equalLeaf?, Value.identical]

theorem any_entries (s : Search) (name : String) :
    (s.entries.any fun e => e.1.sameKey (.text name)) = s.any (·.1 == name) := by
  rw [entries, List.any_map]
  congr 1
  funext e
  exact sameKey_text e.1 name

theorem putEntry_entries (s : Search) (name : String) (m : Matcher) :
    putEntry s.entries (.text name) (.matcher m) = (s.put name m).entries := by
  rw [putEntry, any_entries, put]
  split
  · simp only [entries, List.map_map]
    apply List.map_congr_left
    intro e _
    simp only [Function.comp, sameKey_text]
    by_cases same : e.1 = name <;> simp [same]
  · simp [entries]

theorem mergeEntries_entries (more s : Search) :
    mergeEntries s.entries (entries more) = (s.putAll more).entries := by
  induction more generalizing s with
  | nil => rfl
  | cons pair more ih =>
    show mergeEntries (putEntry s.entries (.text pair.1) (.matcher pair.2)) (entries more) = _
    rw [putEntry_entries, ih]
    rfl

def classified (s : Search) : List (Value × Matcher) := s.map fun e => (.text e.1, e.2)

theorem classify_entries (s : Search) : classify s.entries = .ok s.classified := by
  induction s with
  | nil => rfl
  | cons pair s ih =>
    show (classify (entries s) >>= fun rest => Except.ok ((Value.text pair.1, pair.2) :: rest)) = _
    rw [ih]
    rfl

theorem keyIssues_classified (s : Search) : keyIssues s.classified = [] := by
  induction s with
  | nil => rfl
  | cons pair s ih => exact ih

theorem foldl_classified : ∀ more s : Search,
    more.classified.foldl (fun s (key, m) =>
      match textOf key with
      | .ok name => s.put name m
      | .error _ => s) s = s.putAll more
  | [], _ => rfl
  | pair :: more, s => foldl_classified more (s.put pair.1 pair.2)

/-- A search is made again of the entries of one: matchers stand for themselves, and texts are names. -/
theorem ofEntries_entries {s : Search} (h : s.names.Nodup) : ofEntries s.entries = .ok s := by
  have again : ofClassified s.classified = s := (foldl_classified s []).trans (putAll_of_nodup h)
  show (classify s.entries >>= fun c =>
    if (keyIssues c).isEmpty then Except.ok (ofClassified c) else .error (invalid (keyIssues c))) = _
  rw [classify_entries]
  show (if (keyIssues s.classified).isEmpty then _ else _) = _
  rw [keyIssues_classified, again]
  rfl

end Search
end RecordQuery
