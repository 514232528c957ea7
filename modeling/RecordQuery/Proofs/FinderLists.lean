import RecordQuery.Proofs.LookupOutcomes
/-!
Lookups through default finders in two parts, one behind the other.

Looking up a key through both parts is looking it up through the first one, and through the second one only
if the first one finds nothing (`lookupAmong_append_eq`, `lookupAllAmong_append_eq`); a failure or a match of
the first part is all that it comes to, whatever the second part would do. Finders that are tried again find
nothing again, so that repeating them changes nothing (`lookup_split`).
-/

namespace RecordQuery

namespace DefaultFinders

/-- The finders of the first list, and those of the second one behind them. -/
instance : Append DefaultFinders :=
  ⟨fun f g => ⟨f.names ++ g.names, fun name listed =>
    (List.mem_append.1 listed).elim (f.names_ne_empty name) (g.names_ne_empty name)⟩⟩

@[simp] theorem names_append (f g : DefaultFinders) : (f ++ g).names = f.names ++ g.names := rfl

end DefaultFinders

namespace Run

/-- A run that is a first run, and a second one behind it if the first one answers and its answer passes on to
the second one. A failure of the first run, or an answer that does not pass on, ends it. -/
structure FallsBack (passes : α → Prop) (first second both : Run α) : Prop where
  fails : ∀ e, first.outcome = .error e → both.outcome = .error e ∧ both.messages = first.messages
  settles : ∀ a, first.outcome = .ok a → ¬ passes a →
    both.outcome = .ok a ∧ both.messages = first.messages
  passes_on : ∀ a, first.outcome = .ok a → passes a →
    both.outcome = second.outcome ∧ both.messages = first.messages ++ second.messages

namespace FallsBack

variable {passes : α → Prop} {first second both : Run α}

theorem of_bind {next : α → Run α} (on : ∀ a, passes a → next a = second)
    (stop : ∀ a, ¬ passes a → next a = Pure.pure a) : FallsBack passes first second (first >>= next) where
  fails e failed := ⟨outcome_bind_of_error failed _, messages_bind_of_error failed _⟩
  settles a answered stops := by
    rw [outcome_bind_of_ok answered, messages_bind_of_ok answered, stop a stops]
    exact ⟨rfl, List.append_nil _⟩
  passes_on a answered goes_on := by
    rw [outcome_bind_of_ok answered, messages_bind_of_ok answered, on a goes_on]
    exact ⟨rfl, rfl⟩

theorem outcome_eq (h : FallsBack passes first second both)
    (same : ∀ a, first.outcome = .ok a → passes a → second.outcome = .ok a) :
    both.outcome = first.outcome := by
  cases answered : first.outcome with
  | error e => exact (h.fails e answered).1
  | ok a =>
    by_cases goes_on : passes a
    · rw [(h.passes_on a answered goes_on).1, same a answered goes_on]
    · exact (h.settles a answered goes_on).1

end FallsBack
end Run

namespace Collection

def withFinders (c : Collection) (f : DefaultFinders) : Collection := { c with finders := f }

@[simp] theorem records_withFinders (c : Collection) (f : DefaultFinders) :
    (c.withFinders f).records = c.records := rfl

@[simp] theorem withFinders_withFinders (c : Collection) (f g : DefaultFinders) :
    (c.withFinders f).withFinders g = c.withFinders g := rfl

section
variable [Answers] {c : Collection} {key : Value} {f g : DefaultFinders}

/-! ## Searches and lookups by other finders -/

theorem allWhere_withFinders (c : Collection) (f : DefaultFinders) (p : Predicate) :
    (c.withFinders f).allWhere p = (·.withFinders f) <$> c.allWhere p := by
  simp only [allWhere, spawn_eq, map_bind]
  rfl

theorem findAll_withFinders (c : Collection) (f : DefaultFinders) (criteria : Value)
    (attributes : List (String × Value)) :
    (c.withFinders f).findAll criteria attributes = (·.withFinders f) <$> c.findAll criteria attributes := by
  simp only [findAll, allWhere_withFinders, map_bind]

/-- A lookup for one record does not depend on the collection's own finders, only on those that it goes
through. -/
theorem lookupAmong_withFinders (c : Collection) (f : DefaultFinders) (names : List String) :
    (c.withFinders f).lookupAmong key names = c.lookupAmong key names := by
  induction names with
  | nil => rfl
  | cons finder rest ih =>
    rw [lookupAmong, lookupAmong, ih]
    rfl

/-- A lookup for all records carries the collection's own finders on to what it finds, and does not depend on
them otherwise. -/
theorem lookupAllAmong_withFinders (c : Collection) (f : DefaultFinders) (names : List String) :
    (c.withFinders f).lookupAllAmong key names = (·.withFinders f) <$> c.lookupAllAmong key names := by
  induction names with
  | nil =>
    rw [lookupAllAmong, lookupAllAmong, spawn_eq, spawn_eq]
    rfl
  | cons finder rest ih =>
    rw [lookupAllAmong, lookupAllAmong, findAll_withFinders, ih, map_bind, bind_map_left]
    congr 1
    funext found
    rw [records_withFinders, apply_ite (Functor.map _), map_bind]
    simp only [map_pure]

/-! ## Finders in two parts -/

theorem lookupAmong_append_eq (before after : List String) :
    c.lookupAmong key (before ++ after) = c.lookupAmong key before >>= fun record =>
      match record with
      | .none => c.lookupAmong key after
      | _ => pure record := by
  induction before with
  | nil => rfl
  | cons finder before ih =>
    rw [List.cons_append, lookupAmong, lookupAmong, ih, bind_assoc]
    congr 1
    funext record
    cases record <;> rfl

theorem lookupAllAmong_append_eq (before after : List String) :
    c.lookupAllAmong key (before ++ after) = c.lookupAllAmong key before >>= fun found =>
      if found.records.isEmpty then c.lookupAllAmong key after else pure found := by
  induction before with
  | nil =>
    rw [List.nil_append, lookupAllAmong, spawn_eq]
    rfl
  | cons finder before ih =>
    rw [List.cons_append, lookupAllAmong, lookupAllAmong, ih, bind_assoc]
    congr 1
    funext found
    -- a match is told of and answered: then nothing is left for the second part to do
    by_cases empty : found.records.isEmpty
    · simp only [if_pos empty]
    · simp only [if_neg empty, bind_assoc, pure_bind]

/-! ## Finders that find nothing -/

theorem lookupAmong_eq_none {names : List String} :
    (c.lookupAmong key names).outcome = .ok .none ↔
      ∀ finder ∈ names, (c.findBy (finderEntry finder key) []).outcome = .ok .none := by
  induction names with
  | nil => simp [lookupAmong]
  | cons finder rest ih =>
    rw [List.forall_mem_cons, ← ih]
    constructor
    · intro h
      obtain ⟨record, tried, _⟩ := Run.outcome_bind_eq_ok.1 h
      by_cases none : record = .none
      · subst none
        rw [lookupAmong_cons_of_none tried] at h
        exact ⟨tried, h⟩
      · rw [lookupAmong_cons_of_record tried none] at h
        exact absurd (Except.ok.inj h) none
    · intro h
      obtain ⟨tried, others⟩ := h
      rw [lookupAmong_cons_of_none tried, others]

theorem lookupAllAmong_eq_nil {names : List String} {found : Collection} :
    (c.lookupAllAmong key names).outcome = .ok found ∧ found.records = [] ↔
      (∀ finder ∈ names, c.MatchesNone key finder) ∧ found = c.withRecords [] := by
  constructor
  · intro ⟨h, empty⟩
    rcases lookupAllAmong_eq_ok h with ⟨same, passed_on⟩ | ⟨_, _, _, settled⟩
    · exact ⟨passed_on, same⟩
    · exact absurd empty settled.nonempty
  · intro ⟨passed_on, same⟩
    subst same
    exact ⟨lookupAllAmong_of_matchesNone passed_on, rfl⟩

/-! ## Lookups by finders in two parts -/

theorem lookup_withFinders (plain : key.isQuery = false) (some : f.names ≠ []) :
    (c.withFinders f).lookup key = c.lookupAmong key f.names := by
  have can : (c.withFinders f).CanLookUp key := .inr (by simpa [withFinders] using some)
  rw [lookup, plain, requireFinders_of_canLookUp plain can]
  exact lookupAmong_withFinders c f f.names

theorem lookupAll_withFinders (plain : key.isQuery = false) (some : f.names ≠ []) :
    (c.withFinders f).lookupAll key = (·.withFinders f) <$> c.lookupAllAmong key f.names := by
  have can : (c.withFinders f).CanLookUp key := .inr (by simpa [withFinders] using some)
  rw [lookupAll, plain, requireFinders_of_canLookUp plain can]
  exact lookupAllAmong_withFinders c f f.names

theorem map_lookupAll_withFinders (h : DefaultFinders) (plain : key.isQuery = false) (some : f.names ≠ []) :
    (·.withFinders h) <$> (c.withFinders f).lookupAll key =
      (·.withFinders h) <$> c.lookupAllAmong key f.names := by
  simp only [lookupAll_withFinders plain some, Functor.map_map, withFinders_withFinders]

/-- What looking up a key by finders in two parts comes to, against looking it up by each part. -/
structure SplitLookup (c : Collection) (key : Value) (f g : DefaultFinders) : Prop where
  single : Run.FallsBack (· = .none) ((c.withFinders f).lookup key) ((c.withFinders g).lookup key)
    ((c.withFinders (f ++ g)).lookup key)
  /-- What is found carries the finders that it was looked up by. -/
  all : Run.FallsBack (·.records = []) ((·.withFinders (f ++ g)) <$> (c.withFinders f).lookupAll key)
    ((·.withFinders (f ++ g)) <$> (c.withFinders g).lookupAll key) ((c.withFinders (f ++ g)).lookupAll key)
  /-- Finders that are only repeated change nothing. -/
  repeated_single : (∀ name ∈ g.names, name ∈ f.names) →
    ((c.withFinders (f ++ g)).lookup key).outcome = ((c.withFinders f).lookup key).outcome
  repeated_all : (∀ name ∈ g.names, name ∈ f.names) → ((c.withFinders (f ++ g)).lookupAll key).outcome =
    ((c.withFinders f).lookupAll key).outcome.map (·.withFinders (f ++ g))

theorem single_fallsBack (plain : key.isQuery = false) (some_first : f.names ≠ [])
    (some_second : g.names ≠ []) :
    Run.FallsBack (· = .none) ((c.withFinders f).lookup key) ((c.withFinders g).lookup key)
      ((c.withFinders (f ++ g)).lookup key) := by
  have some_both : (f ++ g).names ≠ [] := by simp [some_first]
  rw [lookup_withFinders plain some_first, lookup_withFinders plain some_second,
    lookup_withFinders plain some_both, DefaultFinders.names_append, lookupAmong_append_eq]
  refine .of_bind (fun record nothing => ?_) fun record something => ?_
  · rw [nothing]
  · cases record with
    | none => exact absurd rfl something
    | _ => rfl

theorem all_fallsBack (plain : key.isQuery = false) (some_first : f.names ≠ [])
    (some_second : g.names ≠ []) :
    Run.FallsBack (·.records = []) ((·.withFinders (f ++ g)) <$> (c.withFinders f).lookupAll key)
      ((·.withFinders (f ++ g)) <$> (c.withFinders g).lookupAll key)
      ((c.withFinders (f ++ g)).lookupAll key) := by
  have some_both : (f ++ g).names ≠ [] := by simp [some_first]
  have both : (c.withFinders (f ++ g)).lookupAll key =
      (·.withFinders (f ++ g)) <$> c.lookupAllAmong key f.names >>= fun found =>
        if found.records.isEmpty then (·.withFinders (f ++ g)) <$> c.lookupAllAmong key g.names
        else pure found := by
    rw [lookupAll_withFinders plain some_both, DefaultFinders.names_append, lookupAllAmong_append_eq,
      map_bind, bind_map_left]
    congr 1
    funext found
    rw [records_withFinders, apply_ite (Functor.map _), map_pure]
  rw [map_lookupAll_withFinders _ plain some_first, map_lookupAll_withFinders _ plain some_second, both]
  exact .of_bind (fun found empty => if_pos (List.isEmpty_iff.2 empty))
    fun found some => if_neg fun empty => some (List.isEmpty_iff.1 empty)

/-- Looking up a key by finders in two parts is looking it up by the first part, and if that one finds
nothing, by the second. -/
theorem lookup_split (c : Collection) (plain : key.isQuery = false) (some_first : f.names ≠ [])
    (some_second : g.names ≠ []) : c.SplitLookup key f g := by
  have single := single_fallsBack (c := c) plain some_first some_second
  have all := all_fallsBack (c := c) plain some_first some_second
  refine ⟨single, all, fun repeated => single.outcome_eq ?_, fun repeated => ?_⟩
  · intro record answered nothing
    rw [lookup_withFinders plain some_first, nothing, lookupAmong_eq_none] at answered
    rw [lookup_withFinders plain some_second, nothing, lookupAmong_eq_none]
    exact fun finder listed => answered finder (repeated finder listed)
  · rw [← Run.outcome_map]
    refine all.outcome_eq ?_
    intro found answered empty
    rw [map_lookupAll_withFinders _ plain some_first, Run.outcome_map] at answered
    rw [map_lookupAll_withFinders _ plain some_second, Run.outcome_map]
    cases looked : (c.lookupAllAmong key f.names).outcome with
    | error e =>
      rw [looked] at answered
      cases answered
    | ok matched =>
      rw [looked] at answered
      cases answered
      -- no finder of the first part matches, and the second part has no others
      obtain ⟨unmatched, rfl⟩ := lookupAllAmong_eq_nil.1 ⟨looked, empty⟩
      rw [lookupAllAmong_of_matchesNone fun finder listed => unmatched finder (repeated finder listed)]
      rfl

end

/-- The body of a page cannot be read. That is no matter as long as the title settles the lookup. -/
theorem lookup_split_unreadable :
    let page : Value := .record [("title", .text "news")] [("body", .value)]
    let c : Collection := ⟨.base, [page], DefaultFinders.none⟩
    let f := DefaultFinders.ofNames ["title"]
    let g := DefaultFinders.ofNames ["body"]
    ((c.withFinders g).lookup (.text "news")).outcome = .error (.raised .value "boom body") ∧
      ((c.withFinders g).lookupAll (.text "news")).outcome = .error (.raised .value "boom body") ∧
      ((c.withFinders (f ++ g)).lookup (.text "news")).outcome = .ok page ∧
      ((c.withFinders (f ++ g)).lookupAll (.text "news")).outcome = .ok (c.withFinders (f ++ g)) := by
  intro page c f g
  have split : c.SplitLookup (.text "news") f g := lookup_split c rfl (by decide) (by decide)
  have first : ((c.withFinders f).lookup (.text "news")).outcome = .ok page := rfl
  have first_all :
      ((·.withFinders (f ++ g)) <$> (c.withFinders f).lookupAll (.text "news")).outcome =
        .ok (c.withFinders (f ++ g)) := rfl
  exact ⟨rfl, rfl, (split.single.settles page first nofun).1, (split.all.settles _ first_all nofun).1⟩

end Collection
end RecordQuery
