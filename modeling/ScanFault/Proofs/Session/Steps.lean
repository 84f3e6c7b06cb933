import ScanFault.Fault.WellFormed
import ScanFault.Proofs.Item.Duplicating
import ScanFault.Session.Step

/-!
# What a step can do

A step changes a session in one of four ways, or not at all (`Session.step_cases`).  A build that is
not refused binds an item to a name.  One that depends on something that is not followed makes the
name one that is not followed.  A report is given a fault that is bound elsewhere.  And a report is
altered, so that its name leads to no item any more (`Session.Alters`).

What a builder makes is told case by case by `Session.Builds`.  It is one of four things
(`Session.Makes`): a fault that has passed its checks, the report of such a fault, the report of a
bound fault, or a duplicate.  A duplicate is the item again, with both of its faults, and nothing is
checked for it.  `Session.build_makes` says so of every builder.

So a property of sessions that all changes keep holds of every reachable session
(`Session.Reachable.induction`), and what the steps of a run keep under some condition holds at its
end when the condition is met throughout (`Session.Throughout.induction`).
-/

namespace ScanFault

/-! ## Making reports -/

/-- Only a fault is wrapped, and the report begins with this fault as both of its faults. -/
theorem Report.wrap_eq_ok_iff {candidate : Candidate} {report : Report} :
    Report.wrap candidate = .ok report ↔
      ∃ fault, candidate = .fault fault ∧ report = ⟨fault, fault⟩ := by
  cases candidate with
  | fault offered =>
    constructor
    · intro made
      cases made
      exact ⟨offered, rfl, rfl⟩
    · intro h
      obtain ⟨fault, same, rfl⟩ := h
      cases same
      rfl
  | report offered => exact iff_of_false (fun h => nomatch h) fun ⟨_, h, _⟩ => nomatch h
  | altered => exact iff_of_false (fun h => nomatch h) fun ⟨_, h, _⟩ => nomatch h
  | kind offered => exact iff_of_false (fun h => nomatch h) fun ⟨_, h, _⟩ => nomatch h
  | plain type => exact iff_of_false (fun h => nomatch h) fun ⟨_, h, _⟩ => nomatch h

namespace Finding

/-- The report of a finding is the report of its fault, with this fault as both of its faults. -/
theorem toReport_eq (finding : Finding) :
    finding.toReport = (fun fault => ⟨fault, fault⟩) <$> finding.toFault := by
  rw [map_eq_pure_bind]
  cases finding <;> rfl

theorem toReport_eq_ok_iff {finding : Finding} {report : Report} :
    finding.toReport.result = .ok report ↔
      ∃ fault, finding.toFault.result = .ok fault ∧ report = ⟨fault, fault⟩ := by
  rw [toReport_eq, map_eq_pure_bind, Attempt.result_bind_eq_ok_iff]
  refine exists_congr fun fault => and_congr_right fun _ => ?_
  rw [Attempt.result_pure, Except.ok.injEq, eq_comm]

theorem toReport_eq_error_iff {finding : Finding} {refusal : Refusal} :
    finding.toReport.result = .error refusal ↔ finding.toFault.result = .error refusal := by
  rw [toReport_eq, map_eq_pure_bind, Attempt.result_bind_eq_error_iff]
  exact or_iff_left fun ⟨_, _, h⟩ => nomatch h

end Finding

theorem Candidate.wrapped_result_eq_ok_iff {candidate : Candidate} {item : Item} :
    candidate.wrapped.result = .ok item ↔
      ∃ fault, candidate = .fault fault ∧ item = .report ⟨fault, fault⟩ := by
  rw [Candidate.wrapped, Attempt.result_bind_eq_ok_iff]
  constructor
  · intro h
    obtain ⟨report, made, ended⟩ := h
    obtain ⟨fault, rfl, rfl⟩ := Report.wrap_eq_ok_iff.mp made
    cases ended
    exact ⟨fault, rfl, rfl⟩
  · intro h
    obtain ⟨fault, rfl, rfl⟩ := h
    exact ⟨⟨fault, fault⟩, rfl, rfl⟩

theorem Report.wrap_of_ne {candidate : Candidate} (no_fault : ∀ fault, candidate ≠ .fault fault) :
    Report.wrap candidate = .error (.notAFault candidate.typeName) := by
  cases candidate with
  | fault offered => exact absurd rfl (no_fault offered)
  | report offered => rfl
  | altered => rfl
  | kind offered => rfl
  | plain type => rfl

theorem Candidate.wrapped_eq (candidate : Candidate) :
    candidate.wrapped = ⟨(Report.wrap candidate).map Item.report, []⟩ := by
  cases candidate <;> rfl

theorem Candidate.wrapped_of_ne {candidate : Candidate}
    (no_fault : ∀ fault, candidate ≠ .fault fault) :
    candidate.wrapped.result = .error (.notAFault candidate.typeName) := by
  rw [wrapped_eq, Report.wrap_of_ne no_fault]
  rfl

/-- What is refused is no fault, and its type is named. -/
theorem Candidate.wrapped_eq_error {candidate : Candidate} {refusal : Refusal}
    (refused : candidate.wrapped.result = .error refusal) :
    (∀ fault, candidate ≠ .fault fault) ∧ refusal = .notAFault candidate.typeName := by
  have no_fault (fault : Fault) : candidate ≠ .fault fault := by
    rintro rfl
    cases refused
  rw [wrapped_of_ne no_fault] at refused
  exact ⟨no_fault, (Except.error.inj refused).symm⟩

theorem Item.toCandidate_eq_fault_iff {item : Item} {fault : Fault} :
    item.toCandidate = .fault fault ↔ item = .fault fault := by
  cases item with
  | fault content => rw [toCandidate, Candidate.fault.injEq, Item.fault.injEq]
  | report content => exact iff_of_false (fun h => nomatch h) fun h => nomatch h

theorem Bound.toCandidate_eq_ok_fault_iff {bound : Bound} {fault : Fault} :
    bound.toCandidate = .ok (.fault fault) ↔ bound = .fault fault := by
  cases bound with
  | fault content =>
    rw [toCandidate, Except.ok.injEq, Candidate.fault.injEq, Bound.fault.injEq]
  | report content =>
    cases content with
    | intact content => exact iff_of_false (fun h => nomatch h) fun h => nomatch h
    | bare => exact iff_of_false (fun h => nomatch h) fun h => nomatch h
    | altered => exact iff_of_false (fun h => nomatch h) fun h => nomatch h
  | lost => exact iff_of_false (fun h => nomatch h) fun h => nomatch h

namespace Session

/-- A name that has a fault is bound to it. -/
theorem lookup?_eq_fault_iff {session : Session} {name : String} {fault : Fault} :
    session.lookup? name = some (.fault fault) ↔ session.bound name = .ok (.fault fault) :=
  lookup?_eq_some_iff.trans bound_eq_ok_iff.symm

/-! ## Building -/

/-- What a builder makes, case by case. -/
inductive Builds (session : Session) : Builder → Item → Prop where
  /-- The fault of a finding. -/
  | find {finding : Finding} {fault : Fault} :
      finding.toFault.result = .ok fault → Builds session (.find finding) (.fault fault)
  /-- A fault that is accepted as it is given. -/
  | make {fields fault : Fault} :
      fields.accept.result = .ok fault → Builds session (.make fields) (.fault fault)
  /-- The report of the fault of a finding. -/
  | report {finding : Finding} {fault : Fault} :
      finding.toFault.result = .ok fault →
        Builds session (.report finding) (.report ⟨fault, fault⟩)
  /-- The report of a bound fault. -/
  | wrapBound {name : String} {fault : Fault} :
      session.lookup? name = some (.fault fault) →
        Builds session (.wrapBound name) (.report ⟨fault, fault⟩)
  /-- The report of a fault that is built first. -/
  | wrapBuilt {builder : Builder} {fault : Fault} :
      Builds session builder (.fault fault) →
        Builds session (.wrapBuilt builder) (.report ⟨fault, fault⟩)
  /-- A bound item, if it can be duplicated in this manner. -/
  | duplicate {manner : Manner} {name : String} {item : Item} :
      session.lookup? name = some item → item.Duplicable manner →
        Builds session (.duplicate manner name) item
  /-- A bound fault with changes. -/
  | replace {name : String} {changes : Changes} {old fault : Fault} :
      session.lookup? name = some (.fault old) → (old.replace changes).result = .ok fault →
        Builds session (.replace name changes) (.fault fault)

theorem Builds.result_eq {session : Session} {builder : Builder} {item : Item}
    (builds : session.Builds builder item) : (session.build builder).result = .ok item := by
  induction builds with
  | find accepted => exact Attempt.result_bind_eq_ok_iff.mpr ⟨_, accepted, rfl⟩
  | make accepted => exact Attempt.result_bind_eq_ok_iff.mpr ⟨_, accepted, rfl⟩
  | report accepted =>
    have reported := Finding.toReport_eq_ok_iff.mpr ⟨_, accepted, rfl⟩
    exact Attempt.result_bind_eq_ok_iff.mpr ⟨_, reported, rfl⟩
  | wrapBound found =>
    exact Attempt.result_bind_eq_ok_iff.mpr ⟨_, lookup?_eq_fault_iff.mp found, rfl⟩
  | wrapBuilt builds made => exact Attempt.result_bind_eq_ok_iff.mpr ⟨_, made, rfl⟩
  | duplicate found duplicable =>
    exact Attempt.result_bind_eq_ok_iff.mpr
      ⟨_, lookup_eq_ok_iff.mpr found, Item.duplicate_of_duplicable duplicable⟩
  | replace found replaced =>
    refine Attempt.result_bind_eq_ok_iff.mpr ⟨_, lookup?_eq_fault_iff.mp found, ?_⟩
    exact Attempt.result_bind_eq_ok_iff.mpr ⟨_, replaced, rfl⟩

theorem builds_of_result_eq {session : Session} {builder : Builder} {item : Item}
    (made : (session.build builder).result = .ok item) : session.Builds builder item := by
  induction builder generalizing item with
  | find finding =>
    obtain ⟨fault, accepted, ended⟩ := Attempt.result_bind_eq_ok_iff.mp made
    cases ended
    exact .find accepted
  | make fields =>
    obtain ⟨fault, accepted, ended⟩ := Attempt.result_bind_eq_ok_iff.mp made
    cases ended
    exact .make accepted
  | report finding =>
    obtain ⟨report, reported, ended⟩ := Attempt.result_bind_eq_ok_iff.mp made
    cases ended
    obtain ⟨fault, accepted, rfl⟩ := Finding.toReport_eq_ok_iff.mp reported
    exact .report accepted
  | wrapPlain plain =>
    obtain ⟨fault, same, -⟩ := Candidate.wrapped_result_eq_ok_iff.mp made
    cases same
  | wrapKind kind =>
    obtain ⟨fault, same, -⟩ := Candidate.wrapped_result_eq_ok_iff.mp made
    cases same
  | wrapBound name =>
    obtain ⟨bound, found, reported⟩ := Attempt.result_bind_eq_ok_iff.mp made
    obtain ⟨candidate, offered, wrapped⟩ := Attempt.result_bind_eq_ok_iff.mp reported
    obtain ⟨fault, rfl, rfl⟩ := Candidate.wrapped_result_eq_ok_iff.mp wrapped
    have offered : bound.toCandidate = .ok (.fault fault) := offered
    obtain rfl := Bound.toCandidate_eq_ok_fault_iff.mp offered
    exact .wrapBound (lookup?_eq_fault_iff.mpr found)
  | wrapBuilt builder ih =>
    obtain ⟨built, built_made, wrapped⟩ := Attempt.result_bind_eq_ok_iff.mp made
    obtain ⟨fault, same, rfl⟩ := Candidate.wrapped_result_eq_ok_iff.mp wrapped
    obtain rfl := Item.toCandidate_eq_fault_iff.mp same
    exact .wrapBuilt (ih built_made)
  | duplicate manner name =>
    obtain ⟨held, found, duplicated⟩ := Attempt.result_bind_eq_ok_iff.mp made
    obtain ⟨rfl, duplicable⟩ := Item.duplicate_eq_ok_iff.mp duplicated
    exact .duplicate (lookup_eq_ok_iff.mp found) duplicable
  | replace name changes =>
    obtain ⟨bound, found, replaced⟩ := Attempt.result_bind_eq_ok_iff.mp made
    cases bound with
    | fault content =>
      obtain ⟨fault, changed, ended⟩ := Attempt.result_bind_eq_ok_iff.mp replaced
      cases ended
      exact .replace (lookup?_eq_fault_iff.mpr found) changed
    | report content => cases replaced
    | lost => cases replaced

/-- A build ends with what its builder makes. -/
theorem build_result_eq_ok_iff {session : Session} {builder : Builder} {item : Item} :
    (session.build builder).result = .ok item ↔ session.Builds builder item :=
  ⟨builds_of_result_eq, Builds.result_eq⟩

/-- What a session can make: the outcomes of its builders. -/
inductive Makes (session : Session) : Item → Prop where
  /-- A fault that has passed its checks. -/
  | fault {fault : Fault} : fault.WellFormed → Makes session (.fault fault)
  /-- The report of a fault that has passed its checks. -/
  | report {fault : Fault} : fault.WellFormed → Makes session (.report ⟨fault, fault⟩)
  /-- The report of a bound fault. -/
  | wrapped {name : String} {fault : Fault} :
      session.lookup? name = some (.fault fault) → Makes session (.report ⟨fault, fault⟩)
  /-- A duplicate of a bound item. -/
  | duplicate {name : String} {item : Item} :
      session.lookup? name = some item → Makes session item

/-- The report of a fault that a session can make is one that it can make. -/
theorem Makes.wrap {session : Session} {fault : Fault} (makes : session.Makes (.fault fault)) :
    session.Makes (.report ⟨fault, fault⟩) := by
  cases makes with
  | fault wellFormed => exact .report wellFormed
  | duplicate found => exact .wrapped found

/-- A builder makes nothing else. -/
theorem build_makes {session : Session} {builder : Builder} {item : Item}
    (made : (session.build builder).result = .ok item) : session.Makes item := by
  have builds := build_result_eq_ok_iff.mp made
  clear made
  induction builds with
  | find accepted => exact .fault (Finding.wellFormed_of_toFault accepted)
  | make accepted => exact .fault (Fault.wellFormed_of_accept accepted)
  | report accepted => exact .report (Finding.wellFormed_of_toFault accepted)
  | wrapBound found => exact .wrapped found
  | wrapBuilt builds makes => exact makes.wrap
  | duplicate found duplicable => exact .duplicate found
  | replace found changed =>
    -- The changed fault is checked again, so nothing is asked of the old one.
    exact .fault (Fault.wellFormed_of_replace changed)

/-! ## Changes -/

end Session

namespace Bound

variable {bound given : Bound} {field : Field} {content : Stored}

/-- A report that takes what it is given stays intact if it was so and is given a fault. -/
theorem setFault_eq_ok (made : bound.setFault given = .ok content) :
    ∃ old, bound = .report old ∧
      ((∃ kept fault, old = .intact kept ∧ given = .fault fault ∧
          content = .intact { kept with fault }) ∨
        (∀ kept fault, old = .intact kept → given ≠ .fault fault) ∧
          (report content).item? = none) := by
  cases bound with
  | fault held => cases given <;> cases made
  | report old =>
    refine ⟨old, rfl, ?_⟩
    cases given with
    | fault fault =>
      cases old with
      | intact kept =>
        cases made
        exact .inl ⟨kept, fault, rfl, rfl, rfl⟩
      | bare =>
        cases made
        exact .inr ⟨fun _ _ h => (nomatch h), rfl⟩
      | altered =>
        cases made
        exact .inr ⟨fun _ _ h => (nomatch h), rfl⟩
    | report other =>
      cases made
      exact .inr ⟨fun _ _ _ h => (nomatch h), rfl⟩
    | lost =>
      cases made
      exact .inr ⟨fun _ _ _ h => (nomatch h), rfl⟩
  | lost => cases made

/-- Whatever else is assigned alters the report. -/
theorem assign_eq_ok (made : bound.assign field = .ok content) :
    (∃ old, bound = .report old) ∧ field ≠ .line ∧ content = .altered := by
  cases bound with
  | fault held => cases made
  | report old =>
    cases field <;> cases made
    all_goals exact ⟨⟨old, rfl⟩, fun h => (nomatch h), rfl⟩
  | lost => cases made

/-- Only the current fault can be deleted, and this is done once. -/
theorem delete_eq_ok (made : bound.delete field = .ok content) :
    (∃ kept, bound = .report (.intact kept)) ∧ field = .fault ∧ content = .bare := by
  cases bound with
  | fault held => cases made
  | report old =>
    cases old with
    | intact kept =>
      cases field <;> cases made
      exact ⟨⟨kept, rfl⟩, rfl, rfl⟩
    | bare => cases field <;> cases made
    | altered => cases field <;> cases made
  | lost => cases made

/-- Whatever changes that a report has from its type alters the report. -/
theorem changeInherited_eq_ok {refused? : Option Failure}
    (made : bound.changeInherited refused? = .ok content) :
    (∃ old, bound = .report old) ∧ refused? = none ∧ content = .altered := by
  cases bound with
  | fault held => cases made
  | report old =>
    cases refused? with
    | some failure => cases made
    | none =>
      cases made
      exact ⟨⟨old, rfl⟩, rfl, rfl⟩
  | lost => cases made

end Bound

namespace Session

/-- The step alters the report under the name, so that the name leads to no item any more. -/
inductive Alters (session : Session) (name : String) : Step → Prop where
  /-- Something of the report is assigned. -/
  | assigned {old : Stored} {field : Field} :
      session.bound? name = some (.report old) → field ≠ .line →
        Alters session name (.assign name field)
  /-- The current fault of the report is deleted. -/
  | deleted {report : Report} :
      session.lookup? name = some (.report report) → Alters session name (.delete name .fault)
  /-- Something that the report has from its type is changed. -/
  | inherited {old : Stored} :
      session.bound? name = some (.report old) →
        Alters session name (.change name (.inherited none))
  /-- The report is given what is no fault, or it was altered before. -/
  | given {source : String} {old : Stored} {offered : Bound} :
      session.bound? name = some (.report old) → session.bound? source = some offered →
      (∀ report fault, old = .intact report → offered ≠ .fault fault) →
        Alters session name (.setFault name source)

/-- Only reports are changed.  A report that is given a bound fault stays intact, and any other
change alters it. -/
theorem changed_eq_ok {session : Session} {name : String} {change : Change} {content : Stored}
    (made : session.changed name change = .ok content) :
    (∃ source report fault, change = .setFault source ∧
      session.lookup? name = some (.report report) ∧
      session.lookup? source = some (.fault fault) ∧ content = .intact { report with fault }) ∨
    session.Alters name (.change name change) ∧ (Bound.report content).item? = none ∧
      ∃ old, session.bound? name = some (.report old) := by
  rw [changed] at made
  cases found : session.bound name with
  | error refusal =>
    rw [found] at made
    cases made
  | ok bound =>
    rw [found] at made
    have found := bound_eq_ok_iff.mp found
    cases change with
    | setFault source =>
      cases other : session.bound source with
      | error refusal =>
        simp only [other] at made
        cases made
      | ok given =>
        simp only [other] at made
        obtain ⟨old, rfl, ⟨report, fault, rfl, rfl, rfl⟩ | ⟨unfit, altered⟩⟩ :=
          Bound.setFault_eq_ok made
        · exact .inl ⟨source, report, fault, rfl, lookup?_eq_some_iff.mpr found,
            lookup?_eq_fault_iff.mpr other, rfl⟩
        · exact .inr ⟨.given found (bound_eq_ok_iff.mp other) unfit, altered, old, found⟩
    | assign field =>
      obtain ⟨⟨old, rfl⟩, other_field, rfl⟩ := Bound.assign_eq_ok made
      exact .inr ⟨.assigned found other_field, rfl, old, found⟩
    | delete field =>
      obtain ⟨⟨kept, rfl⟩, rfl, rfl⟩ := Bound.delete_eq_ok made
      exact .inr ⟨.deleted (lookup?_eq_some_iff.mpr found), rfl, _, found⟩
    | inherited refused? =>
      obtain ⟨⟨old, rfl⟩, rfl, rfl⟩ := Bound.changeInherited_eq_ok made
      exact .inr ⟨.inherited found, rfl, old, found⟩

theorem changed_setFault {session : Session} {name source : String} {report : Report}
    {fault : Fault} (found : session.lookup? name = some (.report report))
    (given : session.lookup? source = some (.fault fault)) :
    session.changed name (.setFault source) = .ok (.intact { report with fault }) := by
  simp only [changed, bound_eq_ok_iff.mpr (lookup?_eq_some_iff.mp found),
    lookup?_eq_fault_iff.mp given]
  rfl

/-- A step that alters a report leaves it other than intact. -/
theorem Alters.exists_changed_eq_ok {session : Session} {name : String} {step : Step}
    (alters : session.Alters name step) :
    ∃ change content old, step = .change name change ∧
      session.changed name change = .ok content ∧
      session.bound? name = some (.report old) ∧ (Bound.report content).item? = none := by
  cases alters with
  | @assigned old field found other_field =>
    refine ⟨.assign field, .altered, old, rfl, ?_, found, rfl⟩
    rw [changed, bound_eq_ok_iff.mpr found]
    cases field <;> first | rfl | exact absurd rfl other_field
  | @deleted report found =>
    have found := lookup?_eq_some_iff.mp found
    refine ⟨.delete .fault, .bare, .intact report, rfl, ?_, found, rfl⟩
    rw [changed, bound_eq_ok_iff.mpr found]
    rfl
  | @inherited old found =>
    refine ⟨.inherited none, .altered, old, rfl, ?_, found, rfl⟩
    rw [changed, bound_eq_ok_iff.mpr found]
    rfl
  | @given source old offered found bound unfit =>
    refine ⟨.setFault source, .altered, old, rfl, ?_, found, rfl⟩
    simp only [changed, bound_eq_ok_iff.mpr found, bound_eq_ok_iff.mpr bound]
    cases offered with
    | fault fault =>
      cases old with
      | intact report => exact absurd rfl (unfit report fault rfl)
      | bare => rfl
      | altered => rfl
    | report other => rfl
    | lost => rfl

/-! ## Steps -/

/-- A step binds what it has built, or loses the name that it would bind, or gives a bound fault to
a report, or alters a report, or changes nothing. -/
theorem step_cases (session : Session) (step : Step) :
    (∃ name builder item, step = .build name builder ∧
      (session.build builder).result = .ok item ∧
      (session.step step).1 = session.bind name item.toBound) ∨
    (∃ name builder, step = .build name builder ∧
      (session.build builder).result = .error .untold ∧
      (session.step step).1 = session.bind name .lost) ∨
    (∃ name source report fault, step = .setFault name source ∧
      session.lookup? name = some (.report report) ∧
      session.lookup? source = some (.fault fault) ∧
      (session.step step).1 = session.put name (.intact { report with fault })) ∨
    (∃ name old content, session.Alters name step ∧ session.bound? name = some (.report old) ∧
      (Bound.report content).item? = none ∧
      (session.step step).1 = session.put name content) ∨
    (session.step step).1 = session := by
  cases step with
  | build name builder =>
    cases made : (session.build builder).result with
    | ok item =>
      refine .inl ⟨name, builder, item, rfl, made, ?_⟩
      rw [Session.step, made]
    | error refusal =>
      by_cases untold : refusal = .untold
      · subst untold
        refine .inr (.inl ⟨name, builder, rfl, made, ?_⟩)
        rw [Session.step, made]
      · refine .inr (.inr (.inr (.inr ?_)))
        rw [Session.step, made]
        split
        next same => cases same
        next same => exact absurd (Except.error.inj same) untold
        next => rfl
  | change name change =>
    cases made : session.changed name change with
    | error refusal =>
      refine .inr (.inr (.inr (.inr ?_)))
      rw [Session.step, made]
    | ok content =>
      rcases changed_eq_ok made with ⟨source, report, fault, rfl, found, given, rfl⟩ |
        ⟨alters, altered, old, found⟩
      · refine .inr (.inr (.inl ⟨name, source, report, fault, rfl, found, given, ?_⟩))
        rw [Session.step, made]
      · refine .inr (.inr (.inr (.inl ⟨name, old, content, alters, found, altered, ?_⟩)))
        rw [Session.step, made]
  | ask query => exact .inr (.inr (.inr (.inr rfl)))

theorem run_induction {property : Session → Prop}
    (kept : ∀ session step, property session → property (session.step step).1)
    {session : Session} (start : property session) (steps : List Step) :
    property (session.run steps).1 := by
  induction steps generalizing session with
  | nil => exact start
  | cons step steps ih => exact ih (kept session step start)

/-- What holds without names and is kept by every step holds of every reachable session. -/
theorem Reachable.induction {property : Session → Prop} (start : property empty)
    (kept : ∀ session step, property session → property (session.step step).1)
    {session : Session} (reachable : session.Reachable) : property session := by
  obtain ⟨steps, rfl⟩ := reachable
  exact run_induction kept start steps

/-! ## Runs -/

/-- Every step on the way meets the condition in the session where it is taken. -/
def Throughout (condition : Session → Step → Prop) (session : Session) : List Step → Prop
  | [] => True
  | step :: steps => condition session step ∧ (session.step step).1.Throughout condition steps

theorem Throughout.induction {condition : Session → Step → Prop} (property : Session → Prop)
    (kept : ∀ session step, condition session step → property session →
      property (session.step step).1)
    {session : Session} {steps : List Step} (along : session.Throughout condition steps)
    (start : property session) : property (session.run steps).1 := by
  induction steps generalizing session with
  | nil => exact start
  | cons step steps ih => exact ih along.2 (kept session step along.1 start)

end Session

end ScanFault
