import ScanFault.Proofs.Session.Observation

/-!
# Equality in sessions

In every session equality is an equivalence relation on the names that are bound
(`Session.equivalence_same`).  It follows the current faults of reports, so a change of a report may
move it to another class.  What is said here is said of single sessions, and so it holds again after
every step.

A search for distinct names and a search for an equal name go by hash and then by equality.  Both
are told by equality alone, whatever the hash (`Session.represents_distinct`).  The main
statement is `Session.equality_decides_search`.
-/

namespace ScanFault

namespace Session

/-! ## Equal names -/

/-- The name is bound to an item. -/
def Binds (session : Session) (name : String) : Prop :=
  ∃ item, session.lookup? name = some item

/-- Decides whether two names are bound to equal items. -/
def same (session : Session) (name other : String) : Bool :=
  match session.lookup? name, session.lookup? other with
  | some a, some b => a == b
  | _, _ => false

section Same

variable {session : Session} {name other : String} {a b : Item}

theorem same_eq (found : session.lookup? name = some a) (found' : session.lookup? other = some b) :
    session.same name other = (a == b) := by
  rw [same, found, found']

theorem same_iff :
    session.same name other = true ↔ ∃ a b, session.lookup? name = some a ∧
      session.lookup? other = some b ∧ (a == b) = true := by
  constructor
  · intro h
    cases found : session.lookup? name with
    | none =>
      rw [same, found] at h
      cases h
    | some a =>
      cases found' : session.lookup? other with
      | none =>
        rw [same, found, found'] at h
        cases h
      | some b => exact ⟨a, b, rfl, rfl, (same_eq found found').symm.trans h⟩
  · rintro ⟨a, b, found, found', equal⟩
    exact (same_eq found found').trans equal

theorem reply_compare (found : session.lookup? name = some a)
    (found' : session.lookup? other = some b) :
    session.reply (.compare name other) =
      pure (.comparison (session.same name other) !session.same name other) := by
  rw [reply, lookup_eq_ok_iff.mpr found, lookup_eq_ok_iff.mpr found', same_eq found found']
  rfl

end Same

/-- Equality is an equivalence relation on the names that are bound. -/
theorem equivalence_same (session : Session) :
    Equivalence fun name other : { name : String // session.Binds name } =>
      session.same name other = true where
  refl := by
    rintro ⟨name, item, found⟩
    exact (same_eq found found).trans BEq.rfl
  symm := by
    intro name other equal
    obtain ⟨a, b, found, found', equal⟩ := same_iff.mp equal
    exact (same_eq found' found).trans (BEq.symm equal)
  trans := by
    intro first second third equal equal'
    obtain ⟨a, b, found, found', equal⟩ := same_iff.mp equal
    obtain ⟨b', c, found'', found''', equal'⟩ := same_iff.mp equal'
    cases found'.symm.trans found''
    exact (same_eq found found''').trans (BEq.trans equal equal')

/-! ## Entries -/

theorem entries_eq_ok_iff {session : Session} {names : List String}
    {entries : List (String × Item)} :
    session.entries names = .ok entries ↔ entries.map Prod.fst = names ∧
      ∀ entry ∈ entries, session.lookup? entry.1 = some entry.2 := by
  induction names generalizing entries with
  | nil =>
    constructor
    · intro h
      cases h
      exact ⟨rfl, List.forall_mem_nil _⟩
    · rintro ⟨names_eq, -⟩
      rw [List.map_eq_nil_iff.mp names_eq]
      rfl
  | cons name names ih =>
    rw [entries_cons]
    constructor
    · intro h
      cases found : session.lookup name with
      | error refusal =>
        rw [found] at h
        cases h
      | ok item =>
        cases rest : session.entries names with
        | error refusal =>
          rw [found, rest] at h
          cases h
        | ok others =>
          rw [found, rest] at h
          cases h
          obtain ⟨names_eq, bound⟩ := ih.mp rest
          exact ⟨congrArg (name :: ·) names_eq,
            List.forall_mem_cons.mpr ⟨lookup_eq_ok_iff.mp found, bound⟩⟩
    · rintro ⟨names_eq, bound⟩
      obtain ⟨⟨_, item⟩, others, rfl, rfl, others_eq⟩ := List.map_eq_cons_iff.mp names_eq
      obtain ⟨found, bound⟩ := List.forall_mem_cons.mp bound
      rw [lookup_eq_ok_iff.mpr found, ih.mpr ⟨others_eq, bound⟩]
      rfl

theorem exists_entries {session : Session} {names : List String}
    (bound : ∀ name ∈ names, session.Binds name) :
    ∃ entries, session.entries names = .ok entries := by
  induction names with
  | nil => exact ⟨[], rfl⟩
  | cons name names ih =>
    obtain ⟨⟨item, found⟩, bound⟩ := List.forall_mem_cons.mp bound
    obtain ⟨entries, held⟩ := ih bound
    refine ⟨(name, item) :: entries, ?_⟩
    rw [entries_cons, lookup_eq_ok_iff.mpr found, held]
    rfl

/-- A search for a name is a search for its item. -/
theorem find?_same {session : Session} {name : String} {item : Item}
    (found : session.lookup? name = some item) {entries : List (String × Item)}
    (bound : ∀ entry ∈ entries, session.lookup? entry.1 = some entry.2) :
    (entries.map Prod.fst).find? (fun other => session.same other name) =
      (entries.find? fun entry => entry.2 == item).map Prod.fst := by
  induction entries with
  | nil => rfl
  | cons entry entries ih =>
    obtain ⟨here, bound⟩ := List.forall_mem_cons.mp bound
    rw [List.map_cons, List.find?_cons, List.find?_cons, same_eq here found]
    cases entry.2 == item with
    | true => rfl
    | false => exact ih bound

/-! ## Searches -/

/-- The names `kept` stand for the listed names, one for each class of equal ones. -/
structure Represents (session : Session) (kept names : List String) : Prop where
  /-- They are listed, in the given order. -/
  sublist : kept.Sublist names
  /-- No two of them are equal. -/
  apart : kept.Pairwise fun name other => session.same name other = false
  /-- For every listed name, the first listed name that is equal to it is kept, and no other kept
  name is equal to it. -/
  first : ∀ name ∈ names, ∃ first ∈ kept,
    names.find? (fun other => session.same other name) = some first ∧
      ∀ other ∈ kept, session.same other name = true ↔ other = first

theorem represents_distinct {session : Session} {names : List String}
    {entries : List (String × Item)} (held : session.entries names = .ok entries)
    (digest : Fault.Key → UInt64) :
    session.Represents ((Item.distinct digest [] entries).map Prod.fst) names := by
  obtain ⟨rfl, bound⟩ := entries_eq_ok_iff.mp held
  have sublist := Item.distinct_sublist digest [] entries
  have kept_bound : ∀ entry ∈ Item.distinct digest [] entries,
      session.lookup? entry.1 = some entry.2 := fun entry kept => bound entry (sublist.subset kept)
  refine ⟨sublist.map Prod.fst, ?_, ?_⟩
  · rw [List.pairwise_map]
    refine (Item.pairwise_distinct digest [] entries).imp_of_mem ?_
    intro entry other kept kept' apart
    rw [same_eq (kept_bound entry kept) (kept_bound other kept')]
    exact eq_false_of_ne_true apart
  · intro name listed
    obtain ⟨⟨_, item⟩, entry_listed, rfl⟩ := List.mem_map.mp listed
    have found := bound _ entry_listed
    obtain ⟨first, first_eq⟩ : ∃ first, entries.find? (fun entry => entry.2 == item) = some first :=
      Option.isSome_iff_exists.mp (List.find?_isSome.mpr ⟨_, entry_listed, BEq.rfl⟩)
    -- What is kept is searched with the same result, since nothing was seen before the list.
    have kept_eq : (Item.distinct digest [] entries).find? (fun entry => entry.2 == item) =
        some first :=
      (Item.find?_distinct digest (List.forall_mem_nil _) entries).trans first_eq
    have first_kept := List.mem_of_find?_eq_some kept_eq
    have first_same : (first.2 == item) = true :=
      List.find?_some (p := fun entry : String × Item => entry.2 == item) kept_eq
    refine ⟨first.1, List.mem_map_of_mem first_kept, ?_, ?_⟩
    · rw [find?_same found bound, first_eq]
      rfl
    · intro other other_kept
      obtain ⟨entry, kept, rfl⟩ := List.mem_map.mp other_kept
      rw [same_eq (kept_bound entry kept) found]
      constructor
      · intro entry_same
        have both := BEq.trans entry_same (BEq.symm first_same)
        rw [Item.eq_of_mem_distinct digest kept first_kept both]
      · intro name_eq
        have bound_same := kept_bound entry kept
        rw [name_eq, kept_bound first first_kept, Option.some.injEq] at bound_same
        rw [← bound_same]
        exact first_same

/-- The reply to a query for distinct names is the same under every digest. -/
theorem reply_distinct {session : Session} {names : List String}
    {entries : List (String × Item)} (held : session.entries names = .ok entries)
    (digest : Fault.Key → UInt64) :
    session.reply (.distinct names) =
      pure (.names ((Item.distinct digest [] entries).map Prod.fst)) := by
  rw [reply, held, Item.distinct_congr digest hash]
  rfl

/-- Names that were found distinct are all distinct. -/
theorem reply_distinct_self {session : Session} {names : List String}
    {entries : List (String × Item)} (held : session.entries names = .ok entries)
    (digest : Fault.Key → UInt64) :
    session.reply (.distinct ((Item.distinct digest [] entries).map Prod.fst)) =
      pure (.names ((Item.distinct digest [] entries).map Prod.fst)) := by
  obtain ⟨-, bound⟩ := entries_eq_ok_iff.mp held
  have sublist := Item.distinct_sublist digest [] entries
  have held_again : session.entries ((Item.distinct digest [] entries).map Prod.fst) =
      .ok (Item.distinct digest [] entries) :=
    entries_eq_ok_iff.mpr ⟨rfl, fun entry kept => bound entry (sublist.subset kept)⟩
  have none_seen : ∀ entry ∈ Item.distinct digest [] entries, ∀ old ∈ ([] : List Item),
      ¬ (old == entry.2) = true := fun _ _ => List.forall_mem_nil _
  have all_kept := Item.distinct_eq_self digest none_seen
    (Item.pairwise_distinct digest [] entries)
  rw [reply_distinct held_again digest, all_kept]

/-- The reply to a query for an equal name is told by equality, under every digest. -/
theorem isAmong_eq_any_same {session : Session} {name : String} {item : Item}
    (found : session.lookup? name = some item) {others : List String}
    {entries : List (String × Item)} (held : session.entries others = .ok entries)
    (digest : Fault.Key → UInt64) :
    item.isAmong digest (entries.map Prod.snd) = others.any fun other =>
      session.same name other := by
  obtain ⟨rfl, bound⟩ := entries_eq_ok_iff.mp held
  rw [Bool.eq_iff_iff, Item.isAmong_iff, List.any_eq_true]
  constructor
  · rintro ⟨_, listed, equal⟩
    obtain ⟨entry, held, rfl⟩ := List.mem_map.mp listed
    exact ⟨entry.1, List.mem_map_of_mem held,
      (same_eq found (bound entry held)).trans (BEq.symm equal)⟩
  · rintro ⟨_, listed, equal⟩
    obtain ⟨entry, held, rfl⟩ := List.mem_map.mp listed
    rw [same_eq found (bound entry held)] at equal
    exact ⟨entry.2, List.mem_map_of_mem held, BEq.symm equal⟩

theorem reply_isAmong {session : Session} {name : String} {item : Item}
    (found : session.lookup? name = some item) {others : List String}
    {entries : List (String × Item)} (held : session.entries others = .ok entries) :
    session.reply (.isAmong name others) =
      pure (.truth (others.any fun other => session.same name other)) := by
  rw [reply, lookup_eq_ok_iff.mpr found, held, ← isAmong_eq_any_same found held hash]
  rfl

end Session

end ScanFault
