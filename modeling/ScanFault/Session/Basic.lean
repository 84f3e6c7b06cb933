import ScanFault.View

/-!
# Sessions

A session binds names to faults and reports.  A fault cannot change, so a name for a fault holds the
fault.  A report can, so a name for a report holds the location of the report in the store of the
session, and `Session.put` changes what is stored there.

A report is there to be given other faults.  Then it is an item like before (`Bound.item?`), and all
that can be seen of it is known.  Its current fault can also be deleted, and it can be given
anything else as its current fault or in any other field.  The session knows that it was altered in
this way, and does not follow what has become of it.  Nor does it follow a name for a duplicate of
an altered report, since it cannot tell whether there is one.  What depends on that is refused as
`Refusal.untold`.

`Session.bind` puts a report at a new location, so two names never have the same location.  Binding
a name again hides its earlier binding, and it leaves what is bound to other names as it is
(`Session.bound?_bind_of_ne`).
-/

namespace ScanFault

/-! ## What names are bound to -/

/-- A report in the store. -/
inductive Stored where
  /-- A report that is as it was made, or was given other faults. -/
  | intact (content : Report)
  /-- A report whose current fault was deleted, and that is intact otherwise. -/
  | bare
  /-- A report that was altered.  Nothing else is known of it. -/
  | altered

/-- What a name is bound to. -/
inductive Bound where
  /-- A fault. -/
  | fault (content : Fault)
  /-- A report. -/
  | report (content : Stored)
  /-- Nothing that is known.  The name may even have no binding. -/
  | lost

/-- An item as what a name is bound to. -/
def Item.toBound : Item → Bound
  | .fault content => .fault content
  | .report content => .report (.intact content)

namespace Bound

/-- The item that a name is bound to.  A report that is not intact is none. -/
def item? : Bound → Option Item
  | fault content => some (.fault content)
  | report (.intact content) => some (.report content)
  | report .bare
  | report .altered
  | lost => none

theorem item?_eq_some_iff {bound : Bound} {item : Item} :
    bound.item? = some item ↔ bound = item.toBound := by
  constructor
  · intro known
    cases bound with
    | fault content =>
      cases known
      rfl
    | report content =>
      cases content with
      | intact content =>
        cases known
        rfl
      | bare => cases known
      | altered => cases known
    | lost => cases known
  · intro same
    subst same
    cases item with
    | fault content => rfl
    | report content => rfl

theorem item?_toBound (item : Item) : item.toBound.item? = some item :=
  item?_eq_some_iff.mpr rfl

/-- The item that a name is bound to. -/
def item (bound : Bound) : Except Refusal Item :=
  match bound.item? with
  | some item => .ok item
  | none => .error .untold

/-- What a name is bound to, as a candidate for a report. -/
def toCandidate : Bound → Except Refusal Candidate
  | fault content => .ok (.fault content)
  | report (.intact content) => .ok (.report content)
  | report .bare
  | report .altered => .ok .altered
  | lost => .error .untold

/-- The value of a field.  A report without a current fault has no line either. -/
def get (bound : Bound) (field : Field) : Except Refusal Value :=
  match bound, field with
  | fault content, field => (Item.fault content).get field
  | report (.intact content), field => (Item.report content).get field
  | report .bare, .line => .error (.noField Report.typeName .fault)
  | report .bare, field => .error (.noField Report.typeName field)
  | report .altered, _
  | lost, _ => .error .untold

end Bound

/-! ## Names and the store -/

/-- What a name holds. -/
inductive Handle where
  /-- A fault. -/
  | fault (content : Fault)
  /-- The location of a report. -/
  | report (location : Nat)
  /-- Nothing that is known. -/
  | lost

/-- Names with their handles, latest first, and the reports by location. -/
structure Session where
  /-- The names. -/
  names : List (String × Handle) := []
  /-- The store of reports. -/
  reports : List Stored := []

namespace Session

/-- The session without names. -/
def empty : Session := {}

/-- What a handle stands for. -/
def resolve (session : Session) : Handle → Option Bound
  | .fault content => some (.fault content)
  | .report location => session.reports[location]?.map .report
  | .lost => some .lost

/-- What a name is bound to. -/
def bound? (session : Session) (name : String) : Option Bound :=
  (session.names.lookup name).bind session.resolve

/-- What a name is bound to.  A name without a binding is refused. -/
def bound (session : Session) (name : String) : Except Refusal Bound :=
  match session.bound? name with
  | some bound => .ok bound
  | none => .error (.unbound name)

/-- The item that a name is bound to. -/
def lookup? (session : Session) (name : String) : Option Item :=
  (session.bound? name).bind Bound.item?

/-- The item that a name is bound to.  A name without a binding is refused. -/
def lookup (session : Session) (name : String) : Except Refusal Item := do
  let bound ← session.bound name
  bound.item

/-- Binds a name.  A report goes to a new location. -/
def bind (session : Session) (name : String) : Bound → Session
  | .fault content => { session with names := (name, .fault content) :: session.names }
  | .report content =>
      { names := (name, .report session.reports.length) :: session.names
        reports := session.reports ++ [content] }
  | .lost => { session with names := (name, .lost) :: session.names }

/-- Stores something in place of the report that a name is bound to.  Without such a report nothing
changes. -/
def put (session : Session) (name : String) (content : Stored) : Session :=
  match session.names.lookup name with
  | some (.report location) => { session with reports := session.reports.set location content }
  | _ => session

/-! ## Look-ups -/

theorem bound_eq_ok_iff {session : Session} {name : String} {bound : Bound} :
    session.bound name = .ok bound ↔ session.bound? name = some bound := by
  rw [Session.bound]
  cases session.bound? name with
  | none => exact iff_of_false (fun h => nomatch h) fun h => nomatch h
  | some found => rw [Except.ok.injEq, Option.some.injEq]

theorem bound_eq_error_iff {session : Session} {name : String} {refusal : Refusal} :
    session.bound name = .error refusal ↔
      session.bound? name = none ∧ refusal = .unbound name := by
  rw [Session.bound]
  cases session.bound? name with
  | none => rw [Except.error.injEq, and_iff_right rfl, eq_comm]
  | some found => exact iff_of_false (fun h => nomatch h) fun h => nomatch h.1

theorem bound?_eq_fault_iff {session : Session} {name : String} {fault : Fault} :
    session.bound? name = some (.fault fault) ↔
      session.names.lookup name = some (.fault fault) := by
  constructor
  · intro found
    obtain ⟨handle, held, resolved⟩ := Option.bind_eq_some_iff.mp found
    cases handle with
    | fault content =>
      cases resolved
      exact held
    | report location =>
      obtain ⟨_, -, same⟩ := Option.map_eq_some_iff.mp resolved
      cases same
    | lost => cases resolved
  · intro held
    rw [bound?, held]
    rfl

theorem bound?_eq_report_iff {session : Session} {name : String} {content : Stored} :
    session.bound? name = some (.report content) ↔
      ∃ location, session.names.lookup name = some (.report location) ∧
        session.reports[location]? = some content := by
  constructor
  · intro found
    obtain ⟨handle, held, resolved⟩ := Option.bind_eq_some_iff.mp found
    cases handle with
    | fault content => cases resolved
    | report location =>
      obtain ⟨stored, at_location, same⟩ := Option.map_eq_some_iff.mp resolved
      cases same
      exact ⟨location, held, at_location⟩
    | lost => cases resolved
  · intro h
    obtain ⟨location, held, stored⟩ := h
    rw [bound?, held, Option.bind_some, resolve, stored]
    rfl

/-- A name is bound to an item exactly when it is bound to what the item is. -/
theorem lookup?_eq_some_iff {session : Session} {name : String} {item : Item} :
    session.lookup? name = some item ↔ session.bound? name = some item.toBound := by
  rw [lookup?]
  cases session.bound? name with
  | none => exact iff_of_false (fun h => nomatch h) fun h => nomatch h
  | some bound => rw [Option.bind_some, Bound.item?_eq_some_iff, Option.some.injEq]

theorem lookup_eq_ok_iff {session : Session} {name : String} {item : Item} :
    session.lookup name = .ok item ↔ session.lookup? name = some item := by
  rw [lookup, lookup?, Session.bound]
  cases session.bound? name with
  | none => exact iff_of_false (fun h => nomatch h) fun h => nomatch h
  | some bound =>
    show bound.item = .ok item ↔ bound.item? = some item
    rw [Bound.item]
    cases bound.item? with
    | none => exact iff_of_false (fun h => nomatch h) fun h => nomatch h
    | some found => rw [Except.ok.injEq, Option.some.injEq]

/-! ## What binding changes -/

/-- The names in use have locations in the store. -/
def Closed (session : Session) : Prop :=
  ∀ name location, session.names.lookup name = some (.report location) →
    location < session.reports.length

theorem closed_empty : empty.Closed := by
  intro name location found
  cases found

theorem Closed.bind {session : Session} (closed : session.Closed) (name : String) (bound : Bound) :
    (session.bind name bound).Closed := by
  intro other location found
  cases bound with
  | fault content =>
    simp only [Session.bind, List.lookup_cons] at found
    split at found
    · cases found
    · exact closed other location found
  | report content =>
    simp only [Session.bind, List.lookup_cons] at found
    simp only [Session.bind, List.length_append, List.length_singleton]
    split at found
    · cases found
      omega
    · have := closed other location found
      omega
  | lost =>
    simp only [Session.bind, List.lookup_cons] at found
    split at found
    · cases found
    · exact closed other location found

/-- A name is bound to what it was bound to last. -/
theorem bound?_bind_self (session : Session) (name : String) (bound : Bound) :
    (session.bind name bound).bound? name = some bound := by
  cases bound with
  | fault content => simp [bind, bound?, resolve]
  | report content => simp [bind, bound?, resolve]
  | lost => simp [bind, bound?, resolve]

theorem lookup?_bind_self (session : Session) (name : String) (item : Item) :
    (session.bind name item.toBound).lookup? name = some item :=
  lookup?_eq_some_iff.mpr (session.bound?_bind_self name item.toBound)

/-- To bind a name leaves the others as they are. -/
theorem bound?_bind_of_ne {session : Session} (closed : session.Closed) {name other : String}
    (ne : other ≠ name) (bound : Bound) :
    (session.bind name bound).bound? other = session.bound? other := by
  have skip : (other == name) = false := beq_false_of_ne ne
  cases bound with
  | fault content =>
    simp only [bind, bound?, List.lookup_cons, skip]
    rfl
  | report content =>
    simp only [bind, bound?, List.lookup_cons, skip]
    cases found : session.names.lookup other with
    | none => rfl
    | some handle =>
      cases handle with
      | fault content => rfl
      | report location =>
        simp only [Option.bind_some, resolve]
        rw [List.getElem?_append_left (closed other location found)]
      | lost => rfl
  | lost =>
    simp only [bind, bound?, List.lookup_cons, skip]
    rfl

end Session

end ScanFault
