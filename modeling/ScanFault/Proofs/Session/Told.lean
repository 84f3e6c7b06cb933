import ScanFault.Proofs.Session.Frame
import ScanFault.Proofs.Session.Observation

/-!
# Answers that are told

A session does not follow what has become of an altered report, and an answer that depends on it is
not told (`Answer.Told`).  So a session that was not altered tells its answer to every step that
does not alter it now (`Session.Intact.told`).
-/

namespace ScanFault

/-- The answer is told.  It is not where it depends on something that the session does not follow,
and then its calls are not told either. -/
def Answer.Told : Answer → Prop
  | .built outcome => outcome.result ≠ .error .untold
  | .asked outcome => outcome.result ≠ .error .untold

/-- What is told in two parts is told as a whole. -/
theorem bind_ne_untold {α β : Type} {first : Except Refusal α} {next : α → Except Refusal β}
    (first_ne : first ≠ .error .untold) (next_ne : ∀ a, first = .ok a → next a ≠ .error .untold) :
    (first >>= next) ≠ .error .untold := by
  cases first with
  | error refusal => exact fun refused => first_ne (congrArg _ (Except.error.inj refused))
  | ok a => exact next_ne a rfl

theorem Attempt.bind_ne_untold {α β : Type} {first : Attempt α} {next : α → Attempt β}
    (first_ne : first.result ≠ .error .untold)
    (next_ne : ∀ a, first.result = .ok a → (next a).result ≠ .error .untold) :
    (first >>= next).result ≠ .error .untold := by
  intro refused
  rcases result_bind_eq_error_iff.mp refused with refused | ⟨a, made, refused⟩
  · exact first_ne refused
  · exact next_ne a made refused

/-! ## Items -/

namespace Item

variable (item : Item)

theorem get_ne_untold (field : Field) : item.get field ≠ .error .untold := by
  rw [get]
  cases item.get? field with
  | none => exact fun h => nomatch h
  | some value => exact fun h => nomatch h

theorem judge_ne_untold (text : Text) : (item.judge text).result ≠ .error .untold := by
  rw [judge]
  cases item.predicate? with
  | none => exact fun h => nomatch h
  | some predicate =>
    show (predicate.judge text).truth.mapError Refusal.predicateFailed ≠ .error .untold
    cases (predicate.judge text).truth with
    | error failure => exact fun h => nomatch h
    | ok truth => exact fun h => nomatch h

theorem raise_ne_untold : item.raise ≠ .error .untold := by
  intro refused
  cases item with
  | fault content => cases refused
  | report content =>
    rw [raise] at refused
    cases rendered : content.render with
    | error broken =>
      rw [rendered] at refused
      cases refused
    | ok text =>
      rw [rendered] at refused
      cases refused

theorem get_toBound (field : Field) : item.toBound.get field = item.get field := by
  cases item with
  | fault content => rfl
  | report content => rfl

end Item

namespace Session

/-! ## Replies -/

variable {session : Session}

/-- What a name is bound to is an item. -/
theorem Intact.exists_bound_eq (intact : session.Intact) {name : String} {bound : Bound}
    (found : session.bound name = .ok bound) : ∃ item : Item, bound = item.toBound := by
  obtain ⟨item, held⟩ := intact.exists_lookup?_eq_some (bound_eq_ok_iff.mp found)
  have same := bound_eq_ok_iff.mpr (lookup?_eq_some_iff.mp held)
  exact ⟨item, Except.ok.inj (found.symm.trans same)⟩

theorem bound_ne_untold (session : Session) (name : String) :
    session.bound name ≠ .error .untold := by
  intro refused
  cases (bound_eq_error_iff.mp refused).2

theorem Intact.lookup_ne_untold (intact : session.Intact) (name : String) :
    session.lookup name ≠ .error .untold := by
  refine bind_ne_untold (session.bound_ne_untold name) fun bound found => ?_
  obtain ⟨item, rfl⟩ := intact.exists_bound_eq found
  intro refused
  rw [Bound.item, Bound.item?_toBound] at refused
  cases refused

theorem Intact.entries_ne_untold (intact : session.Intact) (names : List String) :
    session.entries names ≠ .error .untold := by
  induction names with
  | nil => exact fun h => nomatch h
  | cons name names ih =>
    rw [entries_cons]
    refine bind_ne_untold (intact.lookup_ne_untold name) fun item _ => ?_
    cases listed : session.entries names with
    | error refusal =>
      rw [listed] at ih
      exact fun refused => ih (congrArg _ (Except.error.inj refused))
    | ok entries => exact fun h => nomatch h

/-- Every query is about items. -/
theorem Intact.reply_ne_untold (intact : session.Intact) (query : Query) :
    (session.reply query).result ≠ .error .untold := by
  have told := intact.lookup_ne_untold
  have listed := intact.entries_ne_untold
  cases query with
  | view name => exact Attempt.bind_ne_untold (told name) fun _ _ h => nomatch h
  | compare first second =>
    exact Attempt.bind_ne_untold (told first) fun _ _ =>
      Attempt.bind_ne_untold (told second) fun _ _ h => nomatch h
  | distinct names => exact Attempt.bind_ne_untold (listed names) fun _ _ h => nomatch h
  | isAmong name others =>
    exact Attempt.bind_ne_untold (told name) fun _ _ =>
      Attempt.bind_ne_untold (listed others) fun _ _ h => nomatch h
  | get name field =>
    refine Attempt.bind_ne_untold (session.bound_ne_untold name) fun bound found => ?_
    obtain ⟨item, rfl⟩ := intact.exists_bound_eq found
    refine Attempt.bind_ne_untold ?_ fun _ _ h => nomatch h
    rw [item.get_toBound]
    exact item.get_ne_untold field
  | judge name text =>
    exact Attempt.bind_ne_untold (told name) fun item _ =>
      Attempt.bind_ne_untold (item.judge_ne_untold text) fun _ _ h => nomatch h
  | raise name =>
    exact Attempt.bind_ne_untold (told name) fun item _ =>
      Attempt.bind_ne_untold item.raise_ne_untold fun _ _ h => nomatch h
  | pattern name => exact Attempt.bind_ne_untold (told name) fun _ _ h => nomatch h

end Session

/-! ## Changes -/

/-- A change of an item is made, or it is told why not. -/
theorem Bound.setFault_ne_untold (item given : Item) :
    item.toBound.setFault given.toBound ≠ .error .untold := by
  cases item <;> cases given <;> exact fun h => nomatch h

theorem Bound.assign_ne_untold (item : Item) (field : Field) :
    item.toBound.assign field ≠ .error .untold := by
  cases item with
  | fault content =>
    show Except.error (content.refuseAssignment field) ≠ .error .untold
    rw [Fault.refuseAssignment]
    split <;> exact fun h => nomatch h
  | report content => cases field <;> exact fun h => nomatch h

theorem Bound.delete_ne_untold (item : Item) (field : Field) :
    item.toBound.delete field ≠ .error .untold := by
  cases item with
  | fault content =>
    show Except.error (content.refuseDeletion field) ≠ .error .untold
    rw [Fault.refuseDeletion]
    split <;> exact fun h => nomatch h
  | report content => cases field <;> exact fun h => nomatch h

theorem Bound.changeInherited_ne_untold (item : Item) (refused? : Option Failure) :
    item.toBound.changeInherited refused? ≠ .error .untold := by
  cases item with
  | fault content => exact fun h => nomatch h
  | report content => cases refused? <;> exact fun h => nomatch h

namespace Session

theorem Intact.changed_ne_untold {session : Session} (intact : session.Intact) (name : String)
    (change : Change) : session.changed name change ≠ .error .untold := by
  refine bind_ne_untold (session.bound_ne_untold name) fun bound found => ?_
  obtain ⟨item, rfl⟩ := intact.exists_bound_eq found
  cases change with
  | assign field => exact Bound.assign_ne_untold item field
  | delete field => exact Bound.delete_ne_untold item field
  | inherited refused? => exact Bound.changeInherited_ne_untold item refused?
  | setFault source =>
    refine bind_ne_untold (session.bound_ne_untold source) fun given held => ?_
    obtain ⟨given, rfl⟩ := intact.exists_bound_eq held
    exact Bound.setFault_ne_untold item given

/-- In a session that was not altered, every step that alters nothing has an answer that is told. -/
theorem Intact.told {session : Session} (intact : session.Intact) {step : Step}
    (unaltered : ∀ name, ¬ session.Alters name step) : (session.step step).2.Told := by
  cases step with
  | build name builder =>
    rw [answer_build]
    intro refused
    exact intact.build_ne_untold builder (Attempt.result_map_eq_error_iff.mp refused)
  | ask query => exact intact.reply_ne_untold query
  | change name change =>
    cases made : session.changed name change with
    | error refusal =>
      rw [step_change_of_error made]
      intro untold
      cases untold
      exact intact.changed_ne_untold name change made
    | ok content =>
      rcases changed_eq_ok made with ⟨source, report, fault, rfl, found, given, -⟩ | ⟨alters, -⟩
      · rw [step_setFault found given]
        exact fun h => nomatch h
      · exact absurd alters (unaltered name)

end Session

end ScanFault
