import ScanFault.Proofs.Session.Sound

/-!
# What a step leaves alone

Reports can change and faults cannot, so what matters is which names lead to the same report.  None
do: a report goes to a location of its own when it is bound, and a duplicate is bound like any other
report (`Session.Separated`).  A change of one report is therefore seen under one name.

A change may leave the report intact (`Session.Reassigns`) or alter it (`Session.Alters`), and it
may be refused.  A deletion of the current fault is not refused, and it is seen in the report
(`Session.reachable_delete`).

The main statement is `Session.reachable_step_frame`.  A refused step changes nothing, a build
changes the name that it binds, a change of a report is seen under the name of the report, and a
query changes nothing.  So a name for a fault keeps it until the name is bound again.
-/

namespace ScanFault

/-! ## Refused answers -/

/-- The step was not done, and it is told why. -/
def Answer.Refused : Answer → Prop
  | .built outcome => ∃ refusal, refusal ≠ .untold ∧ outcome.result = .error refusal
  | .asked outcome => ∃ refusal, refusal ≠ .untold ∧ outcome.result = .error refusal

theorem Attempt.result_map {α β : Type} (f : α → β) (attempt : Attempt α) :
    (f <$> attempt).result = attempt.result.map f := by
  obtain ⟨result, calls⟩ := attempt
  cases result with
  | error refusal => rfl
  | ok a => rfl

theorem Attempt.result_map_eq_error_iff {α β : Type} {f : α → β} {attempt : Attempt α}
    {refusal : Refusal} :
    (f <$> attempt).result = .error refusal ↔ attempt.result = .error refusal := by
  rw [result_map]
  cases attempt.result with
  | error other =>
    show (Except.error other : Except Refusal β) = .error refusal ↔ _
    rw [Except.error.injEq, Except.error.injEq]
  | ok a => exact iff_of_false (fun h => nomatch h) fun h => nomatch h

namespace Session

/-! ## Steps -/

/-- The step binds the name, or it is not told whether it does. -/
def Rebinds (session : Session) (name : String) (step : Step) : Prop :=
  ∃ builder, step = .build name builder ∧
    ((∃ item, (session.build builder).result = .ok item) ∨
      (session.build builder).result = .error .untold)

/-- The step gives the report under the name a bound fault. -/
def Reassigns (session : Session) (name : String) (step : Step) : Prop :=
  ∃ source report fault, step = .setFault name source ∧
    session.lookup? name = some (.report report) ∧ session.lookup? source = some (.fault fault)

/-- A step that touches nothing under the name. -/
structure Spares (name : String) (session : Session) (step : Step) : Prop where
  /-- The step does not bind the name. -/
  kept : ¬ session.Rebinds name step
  /-- The step gives the report under the name no fault. -/
  unassigned : ¬ session.Reassigns name step
  /-- The step does not alter the report under the name. -/
  unaltered : ¬ session.Alters name step

section Steps

variable {session : Session} {name source : String} {builder : Builder} {step : Step}

theorem answer_build :
    (session.step (.build name builder)).2 = .built (Item.view <$> session.build builder) := by
  rw [Session.step]
  split
  next => rfl
  next => rfl
  next => rfl

theorem refused_build_iff :
    (session.step (.build name builder)).2.Refused ↔
      ∃ refusal, refusal ≠ .untold ∧ (session.build builder).result = .error refusal := by
  rw [answer_build, Answer.Refused]
  exact exists_congr fun refusal => and_congr_right fun _ => Attempt.result_map_eq_error_iff

theorem step_build_of_ok {item : Item} (made : (session.build builder).result = .ok item) :
    (session.step (.build name builder)).1 = session.bind name item.toBound := by
  rw [Session.step, made]

theorem step_build_of_untold (untold : (session.build builder).result = .error .untold) :
    (session.step (.build name builder)).1 = session.bind name .lost := by
  rw [Session.step, untold]

theorem step_change_of_error {change : Change} {refusal : Refusal}
    (refused : session.changed name change = .error refusal) :
    session.step (.change name change) = (session, .asked (.refuse refusal)) := by
  rw [Session.step, refused]

theorem step_change_of_ok {change : Change} {content : Stored}
    (made : session.changed name change = .ok content) :
    session.step (.change name change) =
      (session.put name content,
        .asked ((session.put name content).acknowledge name change)) := by
  rw [Session.step, made]

/-- The report that takes a fault is told, and so is its view. -/
theorem step_setFault {report : Report} {fault : Fault}
    (found : session.lookup? name = some (.report report))
    (given : session.lookup? source = some (.fault fault)) :
    session.step (.setFault name source) =
      (session.put name (.intact { report with fault }),
        .asked (pure (.view (Item.report { report with fault }).view))) := by
  rw [step_change_of_ok (changed_setFault found given), acknowledge, reply,
    lookup_eq_ok_iff.mpr (lookup?_put_self found)]
  rfl

/-- An altered report is no item. -/
theorem lookup?_step_of_alters (alters : session.Alters name step) :
    (session.step step).1.lookup? name = none := by
  obtain ⟨change, content, old, rfl, made, found, no_item⟩ := alters.exists_changed_eq_ok
  rw [step_change_of_ok made, lookup?, bound?_put_self found]
  exact no_item

/-- A change that was made is not refused, but its view may be untold. -/
theorem eq_untold_of_acknowledge {change : Change} {content : Stored} {refusal : Refusal}
    (made : session.changed name change = .ok content)
    (refused : ((session.put name content).acknowledge name change).result = .error refusal) :
    refusal = .untold := by
  cases change with
  | assign field => cases refused
  | delete field => cases refused
  | inherited refused? => cases refused
  | setFault source =>
    obtain ⟨old, found⟩ : ∃ old, session.bound? name = some (.report old) := by
      rcases changed_eq_ok made with ⟨_, report, _, _, found, -⟩ | ⟨-, -, held⟩
      · exact ⟨.intact report, lookup?_eq_some_iff.mp found⟩
      · exact held
    have stored : (session.put name content).bound? name = some (.report content) :=
      bound?_put_self found
    rw [acknowledge, reply, lookup, bound_eq_ok_iff.mpr stored] at refused
    cases content with
    | intact report => cases refused
    | bare =>
      cases refused
      rfl
    | altered =>
      cases refused
      rfl

/-- A step that is refused leaves the session as it is. -/
theorem step_of_refused (refused : (session.step step).2.Refused) :
    (session.step step).1 = session := by
  cases step with
  | build name builder =>
    obtain ⟨refusal, told, made⟩ := refused_build_iff.mp refused
    rw [Session.step, made]
    cases refusal <;> first | rfl | exact absurd rfl told
  | change name change =>
    cases made : session.changed name change with
    | error refusal => rw [step_change_of_error made]
    | ok content =>
      rw [step_change_of_ok made] at refused
      obtain ⟨refusal, told, refused⟩ := refused
      exact absurd (eq_untold_of_acknowledge made refused) told
  | ask query => rfl

end Steps

/-! ## Names that a step leaves alone -/

/-- What a name is bound to is left as it is by a step that touches nothing under the name. -/
theorem bound?_step_of_spares {session : Session} (separated : session.Separated) {name : String}
    {step : Step} (spares : Spares name session step) :
    (session.step step).1.bound? name = session.bound? name := by
  rcases session.step_cases step with ⟨other, builder, item, step_eq, made, next_eq⟩ |
    ⟨other, builder, step_eq, untold, next_eq⟩ |
    ⟨other, source, report, fault, step_eq, found, given, next_eq⟩ |
    ⟨other, old, content, alters, -, -, next_eq⟩ | next_eq
  · rw [next_eq]
    refine bound?_bind_of_ne separated.closed ?_ item.toBound
    rintro rfl
    exact spares.kept ⟨builder, step_eq, .inl ⟨item, made⟩⟩
  · rw [next_eq]
    refine bound?_bind_of_ne separated.closed ?_ .lost
    rintro rfl
    exact spares.kept ⟨builder, step_eq, .inr untold⟩
  · rw [next_eq]
    refine bound?_put_of_ne separated ?_ _
    rintro rfl
    exact spares.unassigned ⟨source, report, fault, step_eq, found, given⟩
  · rw [next_eq]
    refine bound?_put_of_ne separated ?_ content
    rintro rfl
    exact spares.unaltered alters
  · rw [next_eq]

theorem lookup?_step_of_spares {session : Session} (separated : session.Separated) {name : String}
    {step : Step} (spares : Spares name session step) :
    (session.step step).1.lookup? name = session.lookup? name := by
  rw [lookup?, bound?_step_of_spares separated spares, lookup?]

/-- A change leaves all names but one alone. -/
theorem spares_change {session : Session} {name other : String} (ne : other ≠ name)
    (change : Change) : Spares other session (.change name change) where
  kept := by
    rintro ⟨builder, step_eq, -⟩
    cases step_eq
  unassigned := by
    rintro ⟨source, report, fault, step_eq, -⟩
    cases step_eq
    exact ne rfl
  unaltered := by
    intro alters
    cases alters <;> exact ne rfl

theorem spares_build {session : Session} {name other : String} (ne : other ≠ name)
    (builder : Builder) : Spares other session (.build name builder) where
  kept := by
    rintro ⟨builder, step_eq, -⟩
    cases step_eq
    exact ne rfl
  unassigned := by
    rintro ⟨source, report, fault, step_eq, -⟩
    cases step_eq
  unaltered := by
    intro alters
    cases alters

/-- A build leaves what the other names hold. -/
theorem lookup_names_step_build {session : Session} {name other : String} (ne : other ≠ name)
    (builder : Builder) :
    (session.step (.build name builder)).1.names.lookup other = session.names.lookup other := by
  rw [Session.step]
  split
  next item _ => exact session.lookup_names_bind_of_ne ne item.toBound
  next => exact session.lookup_names_bind_of_ne ne .lost
  next => rfl

/-- Only a report is changed. -/
theorem spares_of_fault {session : Session} {name : String} {fault : Fault}
    (found : session.lookup? name = some (.fault fault)) {step : Step}
    (kept : ¬ session.Rebinds name step) : Spares name session step where
  kept := kept
  unassigned := by
    rintro ⟨source, report, given, -, reported, -⟩
    cases found.symm.trans reported
  unaltered := by
    have bound := lookup?_eq_some_iff.mp found
    intro alters
    cases alters with
    | assigned reported => cases bound.symm.trans reported
    | inherited reported => cases bound.symm.trans reported
    | deleted reported => cases found.symm.trans reported
    | given reported => cases bound.symm.trans reported

/-- A change that gives the report no fault and does not alter it is none. -/
theorem step_change_of_unchanged {session : Session} {name : String} {change : Change}
    (unassigned : ¬ session.Reassigns name (.change name change))
    (unaltered : ¬ session.Alters name (.change name change)) :
    (session.step (.change name change)).1 = session := by
  cases made : session.changed name change with
  | error refusal => rw [step_change_of_error made]
  | ok content =>
    rcases changed_eq_ok made with ⟨source, report, fault, rfl, found, given, -⟩ | ⟨alters, -⟩
    · exact absurd ⟨source, report, fault, rfl, found, given⟩ unassigned
    · exact absurd alters unaltered

theorem names_step_change {session : Session} {name : String} {change : Change} :
    (session.step (.change name change)).1.names = session.names := by
  cases made : session.changed name change with
  | error refusal => rw [step_change_of_error made]
  | ok content =>
    rw [step_change_of_ok made]
    exact names_put

/-- A name for a fault keeps it until the name is bound again. -/
theorem lookup?_run_fault {session : Session} (separated : session.Separated) {name : String}
    {fault : Fault} (found : session.lookup? name = some (.fault fault)) {steps : List Step}
    (kept : session.Throughout (fun session step => ¬ session.Rebinds name step) steps) :
    (session.run steps).1.lookup? name = some (.fault fault) := by
  refine (Throughout.induction (fun session => session.Separated ∧
    session.lookup? name = some (.fault fault)) ?_ kept ⟨separated, found⟩).2
  intro session step kept held
  obtain ⟨separated, found⟩ := held
  exact ⟨separated.step step,
    (lookup?_step_of_spares separated (spares_of_fault found kept)).trans found⟩

end Session

end ScanFault
