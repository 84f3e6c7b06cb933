import Mathlib.Data.List.Induction
import ScanFault.Proofs.Session.Frame
import ScanFault.Proofs.Session.Observation

/-!
# Where the two faults of a report come from

A report is constructed from a fault.  Duplicates are made of it, and duplicates of these, and any
of them may be given other faults on the way.  `Session.Lineage` follows a name back through the
steps that were taken, from the last step that bound the name or gave its report a fault.  It tells
which fault the first report of the chain was constructed from, which fault was given last, and
whether any was given along the chain.  It never looks at the reports in the store.

A report that a name leads to has exactly these two faults (`Session.lookup?_after_eq_iff`).  The
main statement is `Session.lineage_decides_replies`.  A raise tells the fault at the root of the
chain.  Everything else tells the current fault, and a report that was given none on the way has one
fault for both.
-/

namespace ScanFault

namespace Session

/-! ## Sessions after steps -/

/-- The session after some steps from the one without names. -/
def after (steps : List Step) : Session :=
  (empty.run steps).1

theorem run_append (session : Session) (steps more : List Step) :
    (session.run (steps ++ more)).1 = ((session.run steps).1.run more).1 := by
  induction steps generalizing session with
  | nil => rfl
  | cons step steps ih => exact ih (session.step step).1

theorem after_append (steps more : List Step) :
    after (steps ++ more) = ((after steps).run more).1 :=
  run_append empty steps more

theorem after_concat (steps : List Step) (step : Step) :
    after (steps ++ [step]) = ((after steps).step step).1 :=
  after_append steps [step]

theorem reachable_after (steps : List Step) : (after steps).Reachable :=
  ⟨steps, rfl⟩

/-! ## Constructions -/

/-- The builder constructs a report from a fault, and duplicates none. -/
inductive Constructs (session : Session) : Builder → Fault → Prop where
  /-- From the fault of a finding. -/
  | report {finding : Finding} {fault : Fault} :
      finding.toFault.result = .ok fault → Constructs session (.report finding) fault
  /-- From a bound fault. -/
  | wrapBound {source : String} {fault : Fault} :
      session.lookup? source = some (.fault fault) → Constructs session (.wrapBound source) fault
  /-- From a fault that is built on the way. -/
  | wrapBuilt {builder : Builder} {fault : Fault} :
      (session.build builder).result = .ok (.fault fault) →
        Constructs session (.wrapBuilt builder) fault

theorem Constructs.builds {session : Session} {builder : Builder} {fault : Fault}
    (constructs : session.Constructs builder fault) :
    session.Builds builder (.report ⟨fault, fault⟩) := by
  cases constructs with
  | report accepted => exact .report accepted
  | wrapBound found => exact .wrapBound found
  | wrapBuilt made => exact .wrapBuilt (build_result_eq_ok_iff.mp made)

/-- A report is constructed from a fault, or it is the duplicate of a bound report. -/
theorem constructs_or_duplicate {session : Session} {builder : Builder} {report : Report}
    (builds : session.Builds builder (.report report)) :
    (∃ fault, session.Constructs builder fault ∧ report = ⟨fault, fault⟩) ∨
      ∃ manner source, builder = .duplicate manner source ∧
        session.lookup? source = some (.report report) ∧
        (Item.report report).Duplicable manner := by
  cases builds with
  | report accepted => exact .inl ⟨_, .report accepted, rfl⟩
  | wrapBound found => exact .inl ⟨_, .wrapBound found, rfl⟩
  | wrapBuilt builds => exact .inl ⟨_, .wrapBuilt builds.result_eq, rfl⟩
  | duplicate found duplicable => exact .inr ⟨_, _, rfl, found, duplicable⟩

/-! ## Lineages -/

/-- What the steps tell of the report under a name: the fault that the first report of its chain of
duplicates was constructed from, its current fault, and whether any report of the chain was given a
fault before the next one was made of it. -/
inductive Lineage : List Step → (name : String) → (root current : Fault) → (given : Bool) → Prop
    where
  /-- The report was constructed just now, and is the root of its chain. -/
  | constructed {steps : List Step} {name : String} {builder : Builder} {fault : Fault} :
      (after steps).Constructs builder fault →
      Lineage (steps ++ [.build name builder]) name fault fault false
  /-- The report is a duplicate, and takes over what its source has at this moment. -/
  | duplicated {steps : List Step} {name source : String} {manner : Manner} {root current : Fault}
      {given : Bool} :
      Lineage steps source root current given →
      (Item.report ⟨root, current⟩).Duplicable manner →
      Lineage (steps ++ [.build name (.duplicate manner source)]) name root current given
  /-- The report was given a bound fault just now. -/
  | assigned {steps : List Step} {name source : String} {root current fault : Fault}
      {given : Bool} :
      Lineage steps name root current given →
      (after steps).lookup? source = some (.fault fault) →
      Lineage (steps ++ [.setFault name source]) name root fault true
  /-- The last step touched nothing under the name. -/
  | kept {steps : List Step} {step : Step} {name : String} {root current : Fault} {given : Bool} :
      Lineage steps name root current given → Spares name (after steps) step →
      Lineage (steps ++ [step]) name root current given

/-- The report under a name has the two faults of its lineage. -/
theorem Lineage.lookup? {steps : List Step} {name : String} {root current : Fault} {given : Bool}
    (lineage : Lineage steps name root current given) :
    (after steps).lookup? name = some (.report ⟨root, current⟩) := by
  induction lineage with
  | constructed constructs =>
    rw [after_concat, step_build_of_ok constructs.builds.result_eq]
    exact lookup?_bind_self ..
  | duplicated lineage duplicable found =>
    rw [after_concat, step_build_of_ok (Builds.duplicate found duplicable).result_eq]
    exact lookup?_bind_self ..
  | assigned lineage held found =>
    rw [after_concat, step_setFault found held]
    exact lookup?_put_self found
  | @kept steps _ _ _ _ _ lineage spares found =>
    rw [after_concat, lookup?_step_of_spares (reachable_after steps).separated spares]
    exact found

/-- Without a fault given along the chain, both faults are the one at its root. -/
theorem Lineage.root_eq {steps : List Step} {name : String} {root current : Fault} {given : Bool}
    (lineage : Lineage steps name root current given) (none_given : given = false) :
    root = current := by
  induction lineage with
  | constructed constructs => rfl
  | duplicated lineage duplicable ih => exact ih none_given
  | assigned lineage held ih => cases none_given
  | kept lineage spares ih => exact ih none_given

/-- The lineages of a name are those of the report that it leads to. -/
theorem lookup?_after_eq_iff {steps : List Step} {name : String} {root current : Fault} :
    (after steps).lookup? name = some (.report ⟨root, current⟩) ↔
      ∃ given, Lineage steps name root current given := by
  refine ⟨?_, fun ⟨_, lineage⟩ => lineage.lookup?⟩
  intro found
  induction steps using List.reverseRecOn generalizing name root current with
  | nil => cases found
  | append_singleton steps step ih =>
    rw [after_concat] at found
    by_cases rebound : (after steps).Rebinds name step
    · obtain ⟨builder, rfl, ⟨item, made⟩ | untold⟩ := rebound
      · rw [step_build_of_ok made, lookup?_bind_self] at found
        cases found
        rcases constructs_or_duplicate (build_result_eq_ok_iff.mp made) with
          ⟨fault, constructs, same⟩ | ⟨manner, source, rfl, bound, duplicable⟩
        · cases same
          exact ⟨false, .constructed constructs⟩
        · obtain ⟨given, lineage⟩ := ih bound
          exact ⟨given, .duplicated lineage duplicable⟩
      · rw [step_build_of_untold untold, lookup?, bound?_bind_self] at found
        cases found
    by_cases reassigned : (after steps).Reassigns name step
    · obtain ⟨source, ⟨origin, previous⟩, fault, rfl, held, bound⟩ := reassigned
      rw [step_setFault held bound, lookup?_put_self held] at found
      cases found
      obtain ⟨given, lineage⟩ := ih held
      exact ⟨true, .assigned lineage bound⟩
    by_cases altered : (after steps).Alters name step
    · cases (lookup?_step_of_alters altered).symm.trans found
    have spares : Spares name (after steps) step := ⟨rebound, reassigned, altered⟩
    rw [lookup?_step_of_spares (reachable_after steps).separated spares] at found
    obtain ⟨given, lineage⟩ := ih found
    exact ⟨given, .kept lineage spares⟩

/-! ## Replies -/

/-- A report has the two faults of its lineage.  A raise replies with the one at the root and with
the rendering of the current one, and every other reply about the report is of the current one.  The
two are the same if no report of the lineage was given a fault. -/
theorem lineage_decides_replies {steps : List Step} {name : String} {report : Report}
    (found : (after steps).lookup? name = some (.report report)) :
    (∃ root current given, Lineage steps name root current given) ∧
    ∀ root current given, Lineage steps name root current given →
      report = ⟨root, current⟩ ∧ (given = false → root = current) ∧
      (after steps).reply (.raise name) =
        (match current.render with
          | .ok text => pure (.raised ⟨root.view, text⟩)
          | .error broken => .refuse (.violation broken)) ∧
      (after steps).Shows name current := by
  refine ⟨⟨report.origin, report.fault, lookup?_after_eq_iff.mp found⟩, ?_⟩
  intro root current given lineage
  obtain rfl : report = ⟨root, current⟩ := by
    rw [lineage.lookup?, Option.some.injEq, Item.report.injEq] at found
    exact found.symm
  exact ⟨rfl, lineage.root_eq, reply_raise_report found, shows_of_report found⟩

/-- A report is given a fault and duplicated, the duplicate is given another one and duplicated in
turn, and then the first duplicate is changed back.  The second one keeps the fault at the root for
raises, and for all else the fault that its source had when it was made. -/
theorem lineage_decides_replies_duplicate :
    ∃ steps, Lineage steps "second" (.invalidEscape "a" "a") (.invalidEscape "c" "c") true ∧
      (after steps).reply (.raise "second") =
        pure (.raised ⟨(Fault.invalidEscape "a" "a").view, "Invalid escape sequence c in c"⟩) ∧
      (after steps).Shows "second" (.invalidEscape "c" "c") := by
  have run : ∃ steps, (after steps).lookup? "second" =
      some (.report ⟨.invalidEscape "a" "a", .invalidEscape "c" "c"⟩) :=
    ⟨[.build "a" (.make (.invalidEscape "a" "a")),
      .build "b" (.make (.invalidEscape "b" "b")),
      .build "c" (.make (.invalidEscape "c" "c")),
      .build "report" (.wrapBound "a"),
      .setFault "report" "b",
      .build "first" (.duplicate .copy "report"),
      .setFault "first" "c",
      .build "second" (.duplicate .pickle "first"),
      .setFault "first" "a"], rfl⟩
  obtain ⟨steps, found⟩ := run
  obtain ⟨⟨root, current, given, lineage⟩, replies⟩ := lineage_decides_replies found
  obtain ⟨same, root_eq, raised, shows⟩ := replies root current given lineage
  cases same
  cases given with
  | false => cases root_eq rfl
  | true => exact ⟨steps, lineage, raised, shows⟩

end Session

end ScanFault
