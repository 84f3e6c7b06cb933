import ScanFault.Proofs.Session.Steps

/-!
# Locations apart

A report goes to a location of its own when it is bound, and a duplicate is bound like any other
report.  So no two names ever lead to the same location (`Session.Separated`), and what is put in
place of a report is seen under the name of the report alone (`Session.bound?_put_of_ne`).
-/

namespace ScanFault

namespace Session

/-! ## Handles and reports -/

section Handles

variable {session : Session} {name : String} {location : Nat} {content : Stored}

theorem put_of_held (held : session.names.lookup name = some (.report location)) :
    session.put name content =
      { session with reports := session.reports.set location content } := by
  rw [put, held]

theorem names_put : (session.put name content).names = session.names := by
  rw [put]
  split
  next => rfl
  next => rfl

/-- What was put in place of a report is there. -/
theorem bound?_put_self {old : Stored} (found : session.bound? name = some (.report old)) :
    (session.put name content).bound? name = some (.report content) := by
  obtain ⟨location, held, stored⟩ := bound?_eq_report_iff.mp found
  rw [put_of_held held]
  refine bound?_eq_report_iff.mpr ⟨location, held, ?_⟩
  rw [List.getElem?_set_self (List.getElem?_eq_some_iff.mp stored).1]

theorem lookup?_put_self {old report : Report}
    (found : session.lookup? name = some (.report old)) :
    (session.put name (.intact report)).lookup? name = some (.report report) :=
  lookup?_eq_some_iff.mpr (bound?_put_self (lookup?_eq_some_iff.mp found))

end Handles

/-! ## Locations -/

/-- The names in use have locations in the store, each name one of its own. -/
structure Separated (session : Session) : Prop where
  /-- Every location is in the store. -/
  closed : session.Closed
  /-- No two names have the same location. -/
  apart : ∀ {name other location}, session.names.lookup name = some (.report location) →
    session.names.lookup other = some (.report location) → name = other

theorem separated_empty : empty.Separated where
  closed := closed_empty
  apart := by
    intro name other location held
    cases held

/-- A handle without a location is not in the way. -/
theorem Separated.cons {session : Session} (separated : session.Separated) (name : String)
    {handle : Handle} (no_location : ∀ location, handle ≠ .report location)
    {first second : String} {location : Nat}
    (held_first : ((name, handle) :: session.names).lookup first = some (.report location))
    (held_second : ((name, handle) :: session.names).lookup second = some (.report location)) :
    first = second := by
  rw [List.lookup_cons] at held_first held_second
  split at held_first
  next => exact absurd (Option.some.inj held_first) (no_location location)
  next =>
    split at held_second
    next => exact absurd (Option.some.inj held_second) (no_location location)
    next => exact separated.apart held_first held_second

theorem Separated.bind {session : Session} (separated : session.Separated) (name : String)
    (bound : Bound) : (session.bind name bound).Separated := by
  refine ⟨separated.closed.bind name bound, ?_⟩
  intro first second location held_first held_second
  cases bound with
  | fault content =>
    have no_location (location : Nat) : Handle.fault content ≠ .report location := nofun
    exact separated.cons name no_location held_first held_second
  | lost =>
    have no_location (location : Nat) : Handle.lost ≠ .report location := nofun
    exact separated.cons name no_location held_first held_second
  | report content =>
    rw [Session.bind, List.lookup_cons] at held_first held_second
    -- The new location lies beyond all that were in use.
    split at held_first
    next is_first =>
      split at held_second
      next is_second => rw [eq_of_beq is_first, eq_of_beq is_second]
      next =>
        cases held_first
        exact absurd (separated.closed second _ held_second) (Nat.lt_irrefl _)
    next =>
      split at held_second
      next =>
        cases held_second
        exact absurd (separated.closed first _ held_first) (Nat.lt_irrefl _)
      next => exact separated.apart held_first held_second

theorem Separated.put {session : Session} (separated : session.Separated) (name : String)
    (content : Stored) : (session.put name content).Separated := by
  refine ⟨?_, ?_⟩
  · intro other location held
    rw [names_put] at held
    have inside := separated.closed other location held
    rw [Session.put]
    split
    next => rwa [List.length_set]
    next => exact inside
  · intro first second location held_first held_second
    rw [names_put] at held_first held_second
    exact separated.apart held_first held_second

theorem Separated.step {session : Session} (separated : session.Separated) (step : Step) :
    (session.step step).1.Separated := by
  rcases session.step_cases step with ⟨name, builder, item, -, -, next_eq⟩ |
    ⟨name, builder, -, -, next_eq⟩ | ⟨name, source, report, fault, -, -, -, next_eq⟩ |
    ⟨name, old, content, -, -, -, next_eq⟩ | next_eq
  · rw [next_eq]
    exact separated.bind name item.toBound
  · rw [next_eq]
    exact separated.bind name .lost
  · rw [next_eq]
    exact separated.put name _
  · rw [next_eq]
    exact separated.put name content
  · rw [next_eq]
    exact separated

theorem Reachable.separated {session : Session} (reachable : session.Reachable) :
    session.Separated :=
  reachable.induction separated_empty fun _ step separated => separated.step step

/-- A change of a report is not seen under another name. -/
theorem bound?_put_of_ne {session : Session} (separated : session.Separated)
    {name other : String} (ne : other ≠ name) (content : Stored) :
    (session.put name content).bound? other = session.bound? other := by
  cases held : session.names.lookup name with
  | none => rw [put, held]
  | some handle =>
    cases handle with
    | fault fault => rw [put, held]
    | lost => rw [put, held]
    | report location =>
      rw [put_of_held held, bound?, bound?]
      cases held_other : session.names.lookup other with
      | none => rfl
      | some handle =>
        cases handle with
        | fault fault => rfl
        | lost => rfl
        | report place =>
          have elsewhere : location ≠ place := by
            rintro rfl
            exact ne (separated.apart held_other held)
          simp only [Option.bind_some, resolve, List.getElem?_set_ne elsewhere]

theorem lookup_names_bind_of_ne (session : Session) {name other : String} (ne : other ≠ name)
    (bound : Bound) :
    (session.bind name bound).names.lookup other = session.names.lookup other := by
  have skip : (other == name) = false := beq_false_of_ne ne
  cases bound with
  | fault content => rw [Session.bind, List.lookup_cons, skip]
  | report content => rw [Session.bind, List.lookup_cons, skip]
  | lost => rw [Session.bind, List.lookup_cons, skip]

end Session

end ScanFault
