import ScanFault.Proofs.Fault.Describing
import ScanFault.Proofs.Session.Steps

/-!
# Why a build is refused

A report is made of what is offered for it (`Session.Offers`), and what is offered may be built
first.  So a build is refused for what its fault is refused for, or because an item does not allow
what is done with it, or because something that is no fault is offered (`Session.Misuses`).
`Session.Refuses` lists the causes, and `Session.refuses_of_build_eq_error` says that there is no
other.

A build whose refusal is not told uses a name that leads to no item, so there is none where all
names lead to items.
-/

namespace ScanFault

/-- A fault is changed in part if the changes are to fields that it has and the changed one is
accepted. -/
theorem Fault.replace_eq_error {fault : Fault} {changes : Changes} {refusal : Refusal}
    (refused : (fault.replace changes).result = .error refusal) :
    (∃ field, refusal = .unexpectedField fault.kind field) ∨
      (fault.amend changes).accept.result = .error refusal := by
  rw [replace] at refused
  split at refused
  next field foreign => exact .inl ⟨field, (Except.error.inj refused).symm⟩
  next => exact .inr refused

/-- Nothing is offered only where it is not told what there is. -/
theorem Bound.eq_lost_of_toCandidate {bound : Bound} {refusal : Refusal}
    (refused : bound.toCandidate = .error refusal) : bound = .lost ∧ refusal = .untold := by
  cases bound with
  | fault content => cases refused
  | report content => cases content <;> cases refused
  | lost =>
    cases refused
    exact ⟨rfl, rfl⟩

namespace Session

/-- What a builder offers for a report, if it comes to that. -/
inductive Offers (session : Session) : Builder → Candidate → Prop where
  /-- A plain value. -/
  | plain (plain : Plain) : Offers session (.wrapPlain plain) (.plain plain)
  /-- A kind. -/
  | kind (kind : Kind) : Offers session (.wrapKind kind) (.kind kind)
  /-- What a name is bound to. -/
  | bound {name : String} {bound : Bound} {candidate : Candidate} :
      session.bound? name = some bound → bound.toCandidate = .ok candidate →
        Offers session (.wrapBound name) candidate
  /-- An item that is built first. -/
  | built {builder : Builder} {item : Item} :
      (session.build builder).result = .ok item →
        Offers session (.wrapBuilt builder) item.toCandidate

/-- Something that is no fault is offered, by the builder or by one that it wraps. -/
inductive Misuses (session : Session) : Builder → Candidate → Prop where
  /-- The builder offers it. -/
  | offers {builder : Builder} {candidate : Candidate} :
      session.Offers builder candidate → (∀ fault, candidate ≠ .fault fault) →
        Misuses session builder candidate
  /-- What is built first offers it. -/
  | within {builder : Builder} {candidate : Candidate} :
      Misuses session builder candidate → Misuses session (.wrapBuilt builder) candidate

/-- The causes for which a build is refused. -/
inductive Refuses (session : Session) (builder : Builder) : Refusal → Prop where
  /-- A precondition of a fault is broken. -/
  | broken (broken : Violation) : Refuses session builder broken.refusal
  /-- A predicate failed. -/
  | failed (failure : Failure) : Refuses session builder (.predicateFailed failure)
  /-- A field is to be changed that the fault does not have. -/
  | unexpected (kind : Kind) (field : Field) : Refuses session builder (.unexpectedField kind field)
  /-- A report is to be changed in part. -/
  | notAmendable : Refuses session builder .notAmendable
  /-- A predicate cannot be pickled. -/
  | notPickled (failure : Failure) : Refuses session builder (.notPickled failure)
  /-- A name has no binding. -/
  | unbound {name : String} : session.bound? name = none → Refuses session builder (.unbound name)
  /-- A name is bound to no item. -/
  | untold {name : String} {bound : Bound} :
      session.bound? name = some bound → bound.item? = none → Refuses session builder .untold
  /-- Something is offered that is no fault. -/
  | misused {candidate : Candidate} :
      session.Misuses builder candidate → Refuses session builder (.notAFault candidate.typeName)

section Refused

variable {session : Session} {builder : Builder} {refusal : Refusal}

/-- What refuses a builder refuses the wrapping of what it builds. -/
theorem Refuses.within (refuses : session.Refuses builder refusal) :
    session.Refuses (.wrapBuilt builder) refusal := by
  cases refuses with
  | broken broken => exact .broken broken
  | failed failure => exact .failed failure
  | unexpected kind field => exact .unexpected kind field
  | notAmendable => exact .notAmendable
  | notPickled failure => exact .notPickled failure
  | unbound absent => exact .unbound absent
  | untold found no_item => exact .untold found no_item
  | misused misuses => exact .misused (.within misuses)

theorem refuses_of_accept {fault : Fault} (refused : fault.accept.result = .error refusal) :
    session.Refuses builder refusal := by
  rcases Fault.accept_eq_error refused with ⟨broken, rfl⟩ | ⟨_, _, _, failure, -, -, rfl⟩
  · exact .broken broken
  · exact .failed failure

theorem refuses_of_toFault {finding : Finding} (refused : finding.toFault.result = .error refusal) :
    session.Refuses builder refusal := by
  rcases Finding.toFault_eq_error refused with ⟨broken, rfl⟩ | ⟨_, _, _, failure, -, -, rfl⟩
  · exact .broken broken
  · exact .failed failure

theorem refuses_of_bound {name : String} (refused : session.bound name = .error refusal) :
    session.Refuses builder refusal := by
  obtain ⟨absent, rfl⟩ := bound_eq_error_iff.mp refused
  exact .unbound absent

/-- A name leads to an item if it is bound to one. -/
theorem refuses_of_lookup {name : String} (refused : session.lookup name = .error refusal) :
    session.Refuses builder refusal := by
  rw [lookup] at refused
  cases found : session.bound name with
  | error other =>
    rw [found] at refused
    cases refused
    exact refuses_of_bound found
  | ok bound =>
    have refused : bound.item = .error refusal := by rwa [found] at refused
    rw [Bound.item] at refused
    cases known : bound.item? with
    | some item =>
      rw [known] at refused
      cases refused
    | none =>
      rw [known] at refused
      cases refused
      exact .untold (bound_eq_ok_iff.mp found) known

/-- What is offered is refused because it is no fault. -/
theorem refuses_of_wrapped {candidate : Candidate} (offers : session.Offers builder candidate)
    (refused : candidate.wrapped.result = .error refusal) : session.Refuses builder refusal := by
  obtain ⟨no_fault, rfl⟩ := Candidate.wrapped_eq_error refused
  exact .misused (.offers offers no_fault)

/-- A build is refused for one of the causes. -/
theorem refuses_of_build_eq_error (refused : (session.build builder).result = .error refusal) :
    session.Refuses builder refusal := by
  -- Builders are nested only in the wrapping, so there alone the induction hypothesis is needed.
  induction builder generalizing refusal with
  | find finding =>
    rcases Attempt.result_bind_eq_error_iff.mp refused with unfound | ⟨_, _, ended⟩
    · exact refuses_of_toFault unfound
    · cases ended
  | make fields =>
    rcases Attempt.result_bind_eq_error_iff.mp refused with unmade | ⟨_, _, ended⟩
    · exact refuses_of_accept unmade
    · cases ended
  | report finding =>
    rcases Attempt.result_bind_eq_error_iff.mp refused with unfound | ⟨_, _, ended⟩
    · exact refuses_of_toFault (Finding.toReport_eq_error_iff.mp unfound)
    · cases ended
  | wrapPlain plain => exact refuses_of_wrapped (.plain plain) refused
  | wrapKind kind => exact refuses_of_wrapped (.kind kind) refused
  | wrapBound name =>
    rcases Attempt.result_bind_eq_error_iff.mp refused with unbound | ⟨bound, found, refused⟩
    · exact refuses_of_bound unbound
    have found := bound_eq_ok_iff.mp found
    rcases Attempt.result_bind_eq_error_iff.mp refused with unknown | ⟨candidate, offered, wrapped⟩
    · obtain ⟨rfl, rfl⟩ := Bound.eq_lost_of_toCandidate unknown
      exact .untold found rfl
    · exact refuses_of_wrapped (.bound found offered) wrapped
  | wrapBuilt builder ih =>
    rcases Attempt.result_bind_eq_error_iff.mp refused with unbuilt | ⟨item, made, wrapped⟩
    · exact (ih unbuilt).within
    · exact refuses_of_wrapped (.built made) wrapped
  | duplicate manner name =>
    rcases Attempt.result_bind_eq_error_iff.mp refused with unbound | ⟨item, _, ended⟩
    · exact refuses_of_lookup unbound
    have ended : item.duplicate manner = .error refusal := ended
    by_cases duplicable : item.Duplicable manner
    · cases (Item.duplicate_of_duplicable duplicable).symm.trans ended
    · obtain ⟨_, -, failure, -, same⟩ := Item.exists_duplicate_eq_notPickled duplicable
      cases same.symm.trans ended
      exact .notPickled failure
  | replace name changes =>
    rcases Attempt.result_bind_eq_error_iff.mp refused with unbound | ⟨bound, found, replaced⟩
    · exact refuses_of_bound unbound
    cases bound with
    | fault content =>
      rcases Attempt.result_bind_eq_error_iff.mp replaced with unmade | ⟨_, _, ended⟩
      · rcases Fault.replace_eq_error unmade with ⟨field, rfl⟩ | unaccepted
        · exact .unexpected content.kind field
        · exact refuses_of_accept unaccepted
      · cases ended
    | report content =>
      cases replaced
      exact .notAmendable
    | lost =>
      cases replaced
      exact .untold (bound_eq_ok_iff.mp found) rfl

end Refused

end Session

end ScanFault
