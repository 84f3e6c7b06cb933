import ScanFault.Proofs.Session.Equality
import ScanFault.Proofs.Session.Lineage

/-!
# Duplicates

A name is bound to a duplicate of an item, and a duplicate is the item again
(`Item.duplicate_eq_ok_iff`).  A copy is always made.  Pickling is refused where the item holds a
predicate that cannot be pickled, and then the session stays as it is
(`Session.reachable_unpicklable`).

Two names that are bound to one item are twins (`Session.Twins`).  They are equal and have the same
replies and the same outcomes of builders.  More than that, either name can stand for the other in
any query and in any builder (`Session.reply_rename`, `Session.build_rename`), since only what is
bound to a name is looked at.

`Session.Carries` follows an item through the steps of a run, from name to name by duplicates, and
under each name by the steps that touch nothing under it.  The main statement is
`Session.reachable_duplicate`: names that carry one item are twins.
-/

namespace ScanFault

/-! ## One name in place of another -/

/-- The query about other names. -/
def Query.rename (f : String → String) : Query → Query
  | view name => view (f name)
  | compare first second => compare (f first) (f second)
  | distinct names => distinct (names.map f)
  | isAmong name others => isAmong (f name) (others.map f)
  | get name field => get (f name) field
  | judge name text => judge (f name) text
  | raise name => raise (f name)
  | pattern name => pattern (f name)

/-- The builder that starts from other names. -/
def Builder.rename (f : String → String) : Builder → Builder
  | wrapBound name => wrapBound (f name)
  | wrapBuilt builder => wrapBuilt (builder.rename f)
  | duplicate manner name => duplicate manner (f name)
  | replace name changes => replace (f name) changes
  | builder => builder

/-- The reply with other names.  Only a list of names has any. -/
def Reply.rename (f : String → String) : Reply → Reply
  | names content => names (content.map f)
  | reply => reply

/-- The name `other` in place of `name`, and any other name as it is. -/
def insteadOf (name other mentioned : String) : String :=
  if mentioned = name then other else mentioned

namespace Item

/-- A search for distinct items does not look at what they are listed under. -/
theorem distinct_relabel {α β : Type} (digest : Fault.Key → UInt64) (f : α → β)
    (seen : List Item) (entries : List (α × Item)) :
    distinct digest seen (entries.map (Prod.map f id)) =
      (distinct digest seen entries).map (Prod.map f id) := by
  induction entries generalizing seen with
  | nil => rfl
  | cons entry entries ih =>
    rw [List.map_cons, distinct, distinct]
    show (if entry.2.isAmong digest seen then _ else _) = _
    split
    next => exact ih seen
    next => exact congrArg (Prod.map f id entry :: ·) (ih (entry.2 :: seen))

theorem labels_distinct_relabel {α β : Type} (digest : Fault.Key → UInt64) (f : α → β)
    (entries : List (α × Item)) :
    (distinct digest [] (entries.map (Prod.map f id))).map Prod.fst =
      ((distinct digest [] entries).map Prod.fst).map f := by
  rw [distinct_relabel, List.map_map, List.map_map]
  rfl

theorem items_relabel {α β : Type} (f : α → β) (entries : List (α × Item)) :
    (entries.map (Prod.map f id)).map Prod.snd = entries.map Prod.snd := by
  rw [List.map_map]
  rfl

end Item

namespace Session

section Rename

variable {session : Session} {f : String → String}

theorem lookup_rename (agree : ∀ name, session.bound (f name) = session.bound name)
    (name : String) : session.lookup (f name) = session.lookup name := by
  rw [lookup, lookup, agree]

theorem entries_rename (agree : ∀ name, session.bound (f name) = session.bound name)
    (names : List String) :
    session.entries (names.map f) = (session.entries names).map (List.map (Prod.map f id)) := by
  induction names with
  | nil => rfl
  | cons name names ih =>
    rw [List.map_cons, entries_cons, entries_cons, lookup_rename agree, ih]
    cases session.lookup name with
    | error refusal => rfl
    | ok item =>
      show ((session.entries names).map _).map _ = ((session.entries names).map _).map _
      cases session.entries names with
      | error refusal => rfl
      | ok entries => rfl

theorem bind_entries_rename {α : Type}
    (agree : ∀ name, session.bound (f name) = session.bound name) (names : List String)
    (next : List (String × Item) → Attempt α) :
    Attempt.ofExcept (session.entries (names.map f)) >>= next =
      Attempt.ofExcept (session.entries names) >>= fun entries =>
        next (entries.map (Prod.map f id)) := by
  rw [entries_rename agree]
  cases session.entries names with
  | error refusal => rfl
  | ok entries => rfl

/-- If other names are bound to the same, a query about these has the same reply. -/
theorem reply_rename (agree : ∀ name, session.bound (f name) = session.bound name)
    (query : Query) : session.reply (query.rename f) = Reply.rename f <$> session.reply query := by
  have found := lookup_rename agree
  cases query with
  | view name => simp only [Query.rename, reply, found, map_bind, map_pure, Reply.rename]
  | compare first second =>
    simp only [Query.rename, reply, found, map_bind, map_pure, Reply.rename]
  | distinct names =>
    simp only [Query.rename, reply, bind_entries_rename agree, Item.labels_distinct_relabel,
      map_bind, map_pure, Reply.rename]
  | isAmong name others =>
    simp only [Query.rename, reply, found, bind_entries_rename agree, Item.items_relabel,
      map_bind, map_pure, Reply.rename]
  | get name field => simp only [Query.rename, reply, agree, map_bind, map_pure, Reply.rename]
  | judge name text => simp only [Query.rename, reply, found, map_bind, map_pure, Reply.rename]
  | raise name => simp only [Query.rename, reply, found, map_bind, map_pure, Reply.rename]
  | pattern name => simp only [Query.rename, reply, found, map_bind, map_pure, Reply.rename]

/-- If other names are bound to the same, a builder makes the same of these. -/
theorem build_rename (agree : ∀ name, session.bound (f name) = session.bound name)
    (builder : Builder) : session.build (builder.rename f) = session.build builder := by
  induction builder with
  | find finding => rfl
  | make fault => rfl
  | report finding => rfl
  | wrapPlain plain => rfl
  | wrapKind kind => rfl
  | wrapBound name => simp only [Builder.rename, build, agree]
  | wrapBuilt builder ih => simp only [Builder.rename, build, ih]
  | duplicate manner name => simp only [Builder.rename, build, lookup_rename agree]
  | replace name changes => simp only [Builder.rename, build, agree]

theorem bound_insteadOf {name other : String} (same : session.bound other = session.bound name)
    (mentioned : String) :
    session.bound (insteadOf name other mentioned) = session.bound mentioned := by
  rw [insteadOf]
  split
  next is_name => rw [is_name, same]
  next => rfl

end Rename

/-! ## Twins -/

/-- Two names cannot be told apart. -/
structure Twins (session : Session) (name other : String) : Prop where
  /-- They are bound, and to equal items. -/
  equal : session.reply (.compare name other) = pure (.comparison true false)
  /-- They look the same. -/
  view : session.reply (.view other) = session.reply (.view name)
  /-- They have the same fields. -/
  get : ∀ field, session.reply (.get other field) = session.reply (.get name field)
  /-- Their predicates say the same, and are asked the same. -/
  judge : ∀ text, session.reply (.judge other text) = session.reply (.judge name text)
  /-- They match the same. -/
  pattern : session.reply (.pattern other) = session.reply (.pattern name)
  /-- The same arrives when they are raised. -/
  raise : session.reply (.raise other) = session.reply (.raise name)
  /-- Changes to them have the same outcome. -/
  replace : ∀ changes,
    session.build (.replace other changes) = session.build (.replace name changes)
  /-- A query about the one has the reply of the same query about the other. -/
  replies : ∀ query, session.reply (query.rename (insteadOf name other)) =
    Reply.rename (insteadOf name other) <$> session.reply query
  /-- A builder that starts from the one makes the same as with the other. -/
  builds : ∀ builder,
    session.build (builder.rename (insteadOf name other)) = session.build builder

/-- Two names for one item are twins. -/
theorem twins_of_lookup? {session : Session} {name other : String} {item : Item}
    (found : session.lookup? name = some item) (found' : session.lookup? other = some item) :
    session.Twins name other := by
  have bound_eq {mentioned : String} (held : session.lookup? mentioned = some item) :
      session.bound mentioned = .ok item.toBound :=
    bound_eq_ok_iff.mpr (lookup?_eq_some_iff.mp held)
  have same : session.bound other = session.bound name :=
    (bound_eq found').trans (bound_eq found).symm
  have same_item : session.lookup other = session.lookup name := by
    rw [lookup, lookup, same]
  refine
    { equal := ?_
      view := by rw [reply, reply, same_item]
      get := fun field => by rw [reply, reply, same]
      judge := fun text => by rw [reply, reply, same_item]
      pattern := by rw [reply, reply, same_item]
      raise := by rw [reply, reply, same_item]
      replace := fun changes => by rw [build, build, same]
      replies := reply_rename (bound_insteadOf same)
      builds := build_rename (bound_insteadOf same) }
  have equal : session.same name other = true := same_iff.mpr ⟨_, _, found, found', BEq.rfl⟩
  rw [reply_compare found found', equal]
  rfl

/-! ## Duplicates in sessions -/

section Duplicate

variable {session : Session} {name : String} {item : Item} {manner : Manner}

/-- To build a duplicate is to get the bound item, and nothing is called. -/
theorem build_duplicate (found : session.lookup? name = some item)
    (duplicable : item.Duplicable manner) :
    session.build (.duplicate manner name) = pure item := by
  rw [build, lookup_eq_ok_iff.mpr found]
  exact congrArg Attempt.ofExcept (Item.duplicate_of_duplicable duplicable)

/-- A duplicate that cannot be made leaves no trace. -/
theorem step_build_unpicklable (found : session.lookup? name = some item)
    (unfit : ¬ item.Duplicable manner) :
    ∃ fault ∈ item.faults, ∃ failure, fault.unpicklable? = some failure ∧
      ∀ other, session.step (.build other (.duplicate manner name)) =
        (session, .built (.refuse (.notPickled failure))) := by
  obtain ⟨fault, held, failure, unpicklable, refused⟩ := Item.exists_duplicate_eq_notPickled unfit
  refine ⟨fault, held, failure, unpicklable, fun other => ?_⟩
  have made : session.build (.duplicate manner name) = .refuse (.notPickled failure) := by
    rw [build, lookup_eq_ok_iff.mpr found]
    exact congrArg Attempt.ofExcept refused
  rw [step, made]
  rfl

end Duplicate

/-- After these steps `other` has the item that `name` had before them, or a duplicate of it at the
end of a chain of duplicates. -/
inductive Carries (session : Session) (name : String) : List Step → (other : String) → Prop where
  /-- The name itself has the item. -/
  | start : Carries session name [] name
  /-- A name that has the item was duplicated just now. -/
  | duplicated {steps : List Step} {source other : String} {manner : Manner} :
      Carries session name steps source →
      (∃ item, ((session.run steps).1.build (.duplicate manner source)).result = .ok item) →
      Carries session name (steps ++ [.build other (.duplicate manner source)]) other
  /-- The last step touched nothing under the name. -/
  | kept {steps : List Step} {step : Step} {other : String} :
      Carries session name steps other → Spares other (session.run steps).1 step →
      Carries session name (steps ++ [step]) other

section Carries

variable {session : Session} {name other : String} {steps more : List Step}

/-- What is carried is carried on by steps that spare its name. -/
theorem Carries.append (carries : session.Carries name steps other)
    (spared : (session.run steps).1.Throughout (Spares other) more) :
    session.Carries name (steps ++ more) other := by
  induction more generalizing steps with
  | nil => rwa [List.append_nil]
  | cons step more ih =>
    have after_step := session.run_append steps [step]
    rw [← List.singleton_append, ← List.append_assoc]
    exact ih (carries.kept spared.1) (after_step ▸ spared.2)

/-- What is carried is the item. -/
theorem Carries.lookup? (separated : session.Separated) {item : Item}
    (found : session.lookup? name = some item) (carries : session.Carries name steps other) :
    (session.run steps).1.lookup? other = some item := by
  induction carries with
  | start => exact found
  | @duplicated steps source other manner carries succeeds ih =>
    obtain ⟨made, succeeds⟩ := succeeds
    cases build_result_eq_ok_iff.mp succeeds with
    | duplicate held duplicable =>
      obtain rfl : made = item := Option.some.inj (held.symm.trans ih)
      rw [run_append]
      show ((session.run steps).1.step (.build other (.duplicate manner source))).1.lookup? other
        = _
      rw [step_build_of_ok succeeds]
      exact lookup?_bind_self ..
  | @kept steps step other carries spared ih =>
    rw [run_append]
    have separated' : (session.run steps).1.Separated :=
      run_induction (fun _ step separated => separated.step step) separated steps
    exact (lookup?_step_of_spares separated' spared).trans ih

end Carries

/-- A rule that was made inside of a function, and that nothing can be found under the name of. -/
def localRule : Predicate where
  name := "rule"
  judge _ := .bool false
  unpicklable? := some ⟨"AttributeError", "Can't pickle local object 'scan.<locals>.rule'"⟩

end Session

end ScanFault
