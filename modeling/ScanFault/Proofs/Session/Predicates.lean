import ScanFault.Proofs.Fault.Calling
import ScanFault.Proofs.Session.Amending
import ScanFault.Proofs.Session.Told

/-!
# When predicates are called

A predicate is the scanner's own code: it may fail, and it may answer with something that is not a
truth value.  So it matters when it is called.  A session makes an invalid identifier in four ways
(`Session.Tries`), and all follow the rule of `Attempt.Disciplined`.

No other step of a session calls a predicate, except to ask an item for the verdict of its own one.
The main statement is `Session.predicates_disciplined`.  It also says what follows for the items of
a session: a word has been rejected by the predicate that stands beside it, in whatever way the item
was made.
-/

namespace ScanFault

/-! ## Builders -/

theorem Candidate.wrapped_silent (candidate : Candidate) : candidate.wrapped.Silent :=
  (Attempt.silent_ofExcept _).bind fun _ => Attempt.silent_pure _

/-- What is built first, inside all wrapping. -/
def Builder.core : Builder → Builder
  | .wrapBuilt builder => builder.core
  | builder => builder

namespace Session

/-- The builder makes an invalid identifier of these fields, or a report of one. -/
inductive Tries (session : Session) :
    Builder → (line ident : Text) → (isValid : Predicate) → (made : Item) → Prop where
  /-- From a finding. -/
  | find {line ident : Text} {isValid : Predicate} :
      Tries session (.find (.invalidIdentifier line ident isValid)) line ident isValid
        (.fault (.invalidIdentifier line ident isValid))
  /-- From the fields. -/
  | make {line ident : Text} {isValid : Predicate} :
      Tries session (.make (.invalidIdentifier line ident isValid)) line ident isValid
        (.fault (.invalidIdentifier line ident isValid))
  /-- From a finding, with a report around it. -/
  | report {line ident : Text} {isValid : Predicate} :
      Tries session (.report (.invalidIdentifier line ident isValid)) line ident isValid
        (.report ⟨.invalidIdentifier line ident isValid, .invalidIdentifier line ident isValid⟩)
  /-- From a bound one, whose fields stay where they are not changed. -/
  | replace {name : String} {line ident : Text} {isValid : Predicate} {changes : Changes} :
      session.lookup? name = some (.fault (.invalidIdentifier line ident isValid)) →
      changes.Own .invalidIdentifier →
      Tries session (.replace name changes) (changes.line.getD line) (changes.ident.getD ident)
        (changes.isValid.getD isValid)
        (.fault (.invalidIdentifier (changes.line.getD line) (changes.ident.getD ident)
          (changes.isValid.getD isValid)))

theorem Tries.disciplined {session : Session} {builder : Builder} {line ident : Text}
    {isValid : Predicate} {made : Item} (tries : session.Tries builder line ident isValid made) :
    (session.build builder).Disciplined line ident isValid made := by
  cases tries with
  | find => exact (Fault.accept_disciplined line ident isValid).bind rfl
  | make => exact (Fault.accept_disciplined line ident isValid).bind rfl
  | report =>
    have reported : (Finding.invalidIdentifier line ident isValid).toReport.Disciplined line ident
        isValid ⟨.invalidIdentifier line ident isValid, .invalidIdentifier line ident isValid⟩ :=
      (Fault.accept_disciplined line ident isValid).bind rfl
    exact reported.bind rfl
  | replace found own =>
    rw [build_replace_eq found, Fault.replace_of_own own]
    exact (Fault.accept_disciplined ..).bind rfl

/-- To report a built item calls no predicate but those that are called in building it. -/
theorem calls_build_wrapBuilt (session : Session) (builder : Builder) :
    (session.build (.wrapBuilt builder)).calls = (session.build builder).calls :=
  Attempt.calls_bind_of_silent _ fun _ => Candidate.wrapped_silent _

/-- A build calls no predicate, unless an invalid identifier is tried at its core. -/
theorem silent_or_tries (session : Session) (builder : Builder) :
    (session.build builder).Silent ∨
      ((session.build builder).calls = (session.build builder.core).calls ∧
        ∃ line ident isValid made, session.Tries builder.core line ident isValid made) := by
  -- A wrapping adds no call, so by induction only what stands inside all wrapping counts.
  induction builder with
  | find finding =>
    rcases finding.silent_or_eq with silent | ⟨line, ident, isValid, rfl⟩
    · exact .inl (silent.bind fun _ => Attempt.silent_pure _)
    · exact .inr ⟨rfl, _, _, _, _, .find⟩
  | make fault =>
    rcases fault.predicate?_eq_none_or_eq with no_predicate | ⟨line, ident, isValid, rfl⟩
    · exact .inl ((Fault.accept_silent no_predicate).bind fun _ => Attempt.silent_pure _)
    · exact .inr ⟨rfl, _, _, _, _, .make⟩
  | report finding =>
    rcases finding.silent_or_eq with silent | ⟨line, ident, isValid, rfl⟩
    · refine .inl (Attempt.Silent.bind ?_ fun _ => Attempt.silent_pure _)
      rw [finding.toReport_eq, map_eq_pure_bind]
      exact silent.bind fun _ => Attempt.silent_pure _
    · exact .inr ⟨rfl, _, _, _, _, .report⟩
  | wrapPlain plain => exact .inl (Candidate.wrapped_silent _)
  | wrapKind kind => exact .inl (Candidate.wrapped_silent _)
  | wrapBound name =>
    refine .inl ((Attempt.silent_ofExcept _).bind fun _ => ?_)
    exact (Attempt.silent_ofExcept _).bind fun _ => Candidate.wrapped_silent _
  | wrapBuilt builder ih =>
    have same := session.calls_build_wrapBuilt builder
    rcases ih with silent | ⟨core_same, tries⟩
    · exact .inl (same.trans silent)
    · exact .inr ⟨same.trans core_same, tries⟩
  | duplicate manner name =>
    exact .inl ((Attempt.silent_ofExcept _).bind fun _ => Attempt.silent_ofExcept _)
  | replace name changes =>
    cases found : session.bound name with
    | error refusal =>
      refine .inl ?_
      rw [build, found]
      rfl
    | ok bound =>
      cases bound with
      | report content =>
        refine .inl ?_
        rw [build, found]
        rfl
      | lost =>
        refine .inl ?_
        rw [build, found]
        rfl
      | fault content =>
        have held := lookup?_eq_fault_iff.mpr found
        rw [build_replace_eq held]
        by_cases own : changes.Own content.kind
        · rcases content.predicate?_eq_none_or_eq with no_predicate | ⟨line, ident, isValid, rfl⟩
          · exact .inl ((Fault.replace_silent no_predicate changes).bind fun _ =>
              Attempt.silent_pure _)
          · refine .inr ⟨?_, _, _, _, _, .replace held own⟩
            rw [← build_replace_eq held]
            rfl
        · obtain ⟨field, -, refused⟩ := Fault.replace_of_not_own own
          rw [refused]
          exact .inl rfl

end Session

/-! ## Steps -/

/-- The predicate calls that are made for an answer. -/
def Answer.calls : Answer → List Call
  | .built outcome => outcome.calls
  | .asked outcome => outcome.calls

theorem Attempt.calls_map {α β : Type} (f : α → β) (attempt : Attempt α) :
    (f <$> attempt).calls = attempt.calls := by
  obtain ⟨result, calls⟩ := attempt
  cases result with
  | error refusal => rfl
  | ok a => exact List.append_nil calls

theorem Item.judge_calls (item : Item) (text : Text) :
    (item.judge text).calls = item.predicate?.toList.map fun predicate => ⟨predicate, text⟩ := by
  rw [judge]
  cases item.predicate? with
  | none => rfl
  | some predicate => rfl

namespace Session

theorem calls_step_build (session : Session) (name : String) (builder : Builder) :
    (session.step (.build name builder)).2.calls = (session.build builder).calls := by
  rw [answer_build]
  exact Attempt.calls_map Item.view _

/-- Only the query for a verdict calls a predicate. -/
theorem reply_silent (session : Session) {query : Query}
    (no_judge : ∀ name text, query ≠ .judge name text) : (session.reply query).Silent := by
  cases query with
  | view name => exact (Attempt.silent_ofExcept _).bind fun _ => Attempt.silent_pure _
  | compare first second =>
    exact (Attempt.silent_ofExcept _).bind fun _ =>
      (Attempt.silent_ofExcept _).bind fun _ => Attempt.silent_pure _
  | distinct names => exact (Attempt.silent_ofExcept _).bind fun _ => Attempt.silent_pure _
  | isAmong name others =>
    exact (Attempt.silent_ofExcept _).bind fun _ =>
      (Attempt.silent_ofExcept _).bind fun _ => Attempt.silent_pure _
  | get name field =>
    exact (Attempt.silent_ofExcept _).bind fun _ =>
      (Attempt.silent_ofExcept _).bind fun _ => Attempt.silent_pure _
  | judge name text => exact absurd rfl (no_judge name text)
  | raise name =>
    exact (Attempt.silent_ofExcept _).bind fun _ =>
      (Attempt.silent_ofExcept _).bind fun _ => Attempt.silent_pure _
  | pattern name => exact (Attempt.silent_ofExcept _).bind fun _ => Attempt.silent_pure _

theorem reply_judge_calls (session : Session) (name : String) (text : Text) :
    (session.reply (.judge name text)).calls =
      ((session.lookup? name).bind Item.predicate?).toList.map fun predicate =>
        ⟨predicate, text⟩ := by
  cases found : session.lookup name with
  | error refusal =>
    have unknown : session.lookup? name = none := by
      refine Option.eq_none_iff_forall_ne_some.mpr fun item held => ?_
      cases found.symm.trans (lookup_eq_ok_iff.mpr held)
    rw [reply, found, unknown]
    rfl
  | ok item =>
    rw [reply, found, lookup_eq_ok_iff.mp found, Option.bind_some, ← item.judge_calls text]
    exact Attempt.calls_bind_of_silent _ fun _ => Attempt.silent_pure _

theorem calls_step_build_cases (session : Session) (name : String) (builder : Builder) :
    (session.step (.build name builder)).2.calls = [] ∨
      ∃ line ident isValid made, session.Tries builder.core line ident isValid made ∧
        (∃ before after, line = before ++ ident ++ after) ∧
        (session.step (.build name builder)).2.calls = [⟨isValid, ident⟩] := by
  rw [calls_step_build]
  rcases session.silent_or_tries builder with silent | ⟨core_same, _, _, _, _, tries⟩
  · exact .inl silent
  · rw [core_same]
    rcases tries.disciplined.calls_eq with none_called | ⟨occurs, called⟩
    · exact .inl none_called
    · exact .inr ⟨_, _, _, _, tries, occurs, called⟩

/-- A change of a report is answered by a view if at all, and a refusal of it calls nothing either.
-/
theorem calls_step_change (session : Session) (name : String) (change : Change) :
    (session.step (.change name change)).2.calls = [] := by
  cases made : session.changed name change with
  | error refusal => rw [step_change_of_error made]; rfl
  | ok content =>
    rw [step_change_of_ok made]
    cases change with
    | setFault source =>
      refine reply_silent _ fun _ _ asked => ?_
      cases asked
    | assign field => rfl
    | delete field => rfl
    | inherited refused? => rfl

end Session

/-! ## What predicates reject -/

namespace Predicate

variable {ident : Text}

theorem ne_always_of_rejects {isValid : Predicate}
    (rejected : (isValid.judge ident).truth = .ok false) : isValid ≠ always := by
  rintro rfl
  cases rejected

theorem ne_failing_of_rejects {isValid : Predicate}
    (rejected : (isValid.judge ident).truth = .ok false) : isValid ≠ failing := by
  rintro rfl
  cases rejected

theorem eq_nil_of_itself_rejects (rejected : (itself.judge ident).truth = .ok false) :
    ident = [] := by
  cases ident with
  | nil => rfl
  | cons c rest => cases rejected

theorem length_of_short_rejects (rejected : (short.judge ident).truth = .ok false) :
    3 < ident.length :=
  Nat.lt_of_not_le (of_decide_eq_false (Except.ok.inj rejected))

end Predicate

namespace Session

end Session

end ScanFault
