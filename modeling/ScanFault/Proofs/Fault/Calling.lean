import ScanFault.Proofs.Fault.Amending

/-!
# When a fault asks its predicate

An invalid identifier is the only fault with a predicate to ask.  It is made by one rule
(`Attempt.Disciplined`).  A word that is not in the line is refused without a call.  Otherwise the
predicate is called once, on the word alone.  Its failure is the failure of the attempt, and a true
verdict is a refusal.

`Fault.accept_disciplined` says that the checks follow the rule, and the rule is kept by whatever is
done with the fault then.  Every other fault is made in silence (`Fault.accept_silent`).
-/

namespace ScanFault

/-! ## The rule -/

/-- The attempt makes `made` of an invalid identifier with these fields, in the way that the rule
for predicates says. -/
structure Attempt.Disciplined {α : Type} (line ident : Text) (isValid : Predicate) (made : α)
    (attempt : Attempt α) : Prop where
  /-- A word that is not in the line is refused, and no predicate is called. -/
  absent : (¬ ∃ before after, line = before ++ ident ++ after) →
    attempt = .refuse (.violation (.identifierNotInLine ident line))
  /-- The predicate is called once, and its failure comes out as it is. -/
  failed : (∃ before after, line = before ++ ident ++ after) →
    ∀ failure, (isValid.judge ident).truth = .error failure →
      attempt = ⟨.error (.predicateFailed failure), [⟨isValid, ident⟩]⟩
  /-- The predicate is called once, and a word that it accepts is refused. -/
  accepted : (∃ before after, line = before ++ ident ++ after) →
    (isValid.judge ident).truth = .ok true →
      attempt = ⟨.error (.violation (.identifierValid ident)), [⟨isValid, ident⟩]⟩
  /-- The predicate is called once, and a word that it rejects is taken. -/
  rejected : (∃ before after, line = before ++ ident ++ after) →
    (isValid.judge ident).truth = .ok false →
      attempt = ⟨.ok made, [⟨isValid, ident⟩]⟩

section Rule

variable {line ident : Text} {isValid : Predicate}

theorem Fault.accept_disciplined (line ident : Text) (isValid : Predicate) :
    (invalidIdentifier line ident isValid).accept.Disciplined line ident isValid
      (.invalidIdentifier line ident isValid) := by
  simp only [accept, check]
  refine ⟨?_, ?_, ?_, ?_⟩
  · intro absent
    rw [if_neg (mt Text.contains_iff.mp absent)]
    rfl
  · intro occurs failure failed
    rw [if_pos (Text.contains_iff.mpr occurs), checkRejected, Predicate.ask, failed]
    rfl
  · intro occurs accepted
    rw [if_pos (Text.contains_iff.mpr occurs), checkRejected, Predicate.ask, accepted]
    rfl
  · intro occurs rejected
    rw [if_pos (Text.contains_iff.mpr occurs), checkRejected, Predicate.ask, rejected]
    rfl

/-- The rule is kept by what follows without a check. -/
theorem Attempt.Disciplined.bind {α β : Type} {attempt : Attempt α} {a : α} {b : β}
    {next : α → Attempt β} (disciplined : attempt.Disciplined line ident isValid a)
    (ended : next a = pure b) : (attempt >>= next).Disciplined line ident isValid b := by
  refine ⟨?_, ?_, ?_, ?_⟩
  · intro absent
    rw [disciplined.absent absent]
    rfl
  · intro occurs failure failed
    rw [disciplined.failed occurs failure failed]
    rfl
  · intro occurs accepted
    rw [disciplined.accepted occurs accepted]
    rfl
  · intro occurs rejected
    rw [disciplined.rejected occurs rejected, bind_of_ok rfl, ended]
    rfl

/-- A word that is in the line is put before the predicate once, and no refusal says that it is not
in the line. -/
theorem Attempt.Disciplined.of_occurs {α : Type} {attempt : Attempt α} {a : α}
    (disciplined : attempt.Disciplined line ident isValid a)
    (occurs : ∃ before after, line = before ++ ident ++ after) :
    attempt.calls = [⟨isValid, ident⟩] ∧
      attempt.result ≠ .error (.violation (.identifierNotInLine ident line)) := by
  cases truth : (isValid.judge ident).truth with
  | error failure =>
    rw [disciplined.failed occurs failure truth]
    exact ⟨rfl, fun h => nomatch h⟩
  | ok accepted =>
    cases accepted with
    | true =>
      rw [disciplined.accepted occurs truth]
      exact ⟨rfl, fun h => nomatch h⟩
    | false =>
      rw [disciplined.rejected occurs truth]
      exact ⟨rfl, fun h => nomatch h⟩

/-- A refusal breaks one of the two checks, the one of the line or the one of the verdict, or it is
the failure of the predicate as it is. -/
theorem Attempt.Disciplined.refusal_eq {α : Type} {attempt : Attempt α} {a : α} {refusal : Refusal}
    (disciplined : attempt.Disciplined line ident isValid a)
    (refused : attempt.result = .error refusal) :
    refusal = .violation (.identifierNotInLine ident line) ∨
      refusal = .violation (.identifierValid ident) ∨
      ∃ failure, (isValid.judge ident).truth = .error failure ∧
        refusal = .predicateFailed failure := by
  by_cases occurs : ∃ before after, line = before ++ ident ++ after
  · cases truth : (isValid.judge ident).truth with
    | error failure =>
      rw [disciplined.failed occurs failure truth] at refused
      exact .inr (.inr ⟨failure, rfl, (Except.error.inj refused).symm⟩)
    | ok accepted =>
      cases accepted with
      | true =>
        rw [disciplined.accepted occurs truth] at refused
        exact .inr (.inl (Except.error.inj refused).symm)
      | false =>
        rw [disciplined.rejected occurs truth] at refused
        cases refused
  · rw [disciplined.absent occurs] at refused
    exact .inl (Except.error.inj refused).symm

/-- A violation is of one of the two checks. -/
theorem Attempt.Disciplined.violation_eq {α : Type} {attempt : Attempt α} {a : α}
    {broken : Violation} (disciplined : attempt.Disciplined line ident isValid a)
    (refused : attempt.result = .error (.violation broken)) :
    broken = .identifierNotInLine ident line ∨ broken = .identifierValid ident := by
  rcases disciplined.refusal_eq refused with same | same | ⟨_, -, same⟩
  · exact .inl (Refusal.violation.inj same)
  · exact .inr (Refusal.violation.inj same)
  · cases same

/-- At most one call is made. -/
theorem Attempt.Disciplined.calls_eq {α : Type} {attempt : Attempt α} {a : α}
    (disciplined : attempt.Disciplined line ident isValid a) :
    attempt.calls = [] ∨
      (∃ before after, line = before ++ ident ++ after) ∧ attempt.calls = [⟨isValid, ident⟩] := by
  by_cases occurs : ∃ before after, line = before ++ ident ++ after
  · exact .inr ⟨occurs, (disciplined.of_occurs occurs).1⟩
  · rw [disciplined.absent occurs]
    exact .inl rfl

end Rule

/-! ## What is made without a call -/

/-- Only an invalid identifier has a predicate to call. -/
theorem Fault.check_silent {fault : Fault} (no_predicate : fault.predicate? = none) :
    fault.check.Silent := by
  cases fault with
  | expectedIdentifier line index => rfl
  | expectedToken line index tokens => rfl
  | expectedEscape line index replace token => rfl
  | unexpectedToken line index token => rfl
  | invalidEscape line escape =>
    rw [check]
    split
    next => exact Attempt.silent_pure ()
    next => exact Attempt.silent_refuse _
  | invalidIdentifier line ident isValid => cases no_predicate

theorem Fault.accept_silent {fault : Fault} (no_predicate : fault.predicate? = none) :
    fault.accept.Silent :=
  (check_silent no_predicate).bind fun _ => Attempt.silent_pure fault

/-- A fault that has no predicate is given none by changes. -/
theorem Fault.replace_silent {fault : Fault} (no_predicate : fault.predicate? = none)
    (changes : Changes) : (fault.replace changes).Silent := by
  by_cases own : changes.Own fault.kind
  · rw [replace_of_own own]
    refine accept_silent ?_
    rw [(fault.merged_amend changes).predicate?_eq, no_predicate]
    rfl
  · obtain ⟨field, -, refused⟩ := replace_of_not_own own
    rw [refused]
    exact Attempt.silent_refuse _

theorem Fault.predicate?_eq_none_or_eq (fault : Fault) :
    fault.predicate? = none ∨
      ∃ line ident isValid, fault = .invalidIdentifier line ident isValid := by
  cases fault with
  | invalidIdentifier line ident isValid => exact .inr ⟨line, ident, isValid, rfl⟩
  | _ => exact .inl rfl

/-- A finding either is an invalid identifier or is made a fault without a call. -/
theorem Finding.silent_or_eq (finding : Finding) :
    finding.toFault.Silent ∨
      ∃ line ident isValid, finding = .invalidIdentifier line ident isValid := by
  cases finding with
  | expectedIdentifier line index => exact .inl (Fault.accept_silent rfl)
  | expectedToken line index tokens => exact .inl (Fault.accept_silent rfl)
  | expectedEscape line index replace =>
    exact .inl ((Attempt.silent_checked _).bind fun _ => Fault.accept_silent rfl)
  | unexpectedToken line index =>
    exact .inl ((Attempt.silent_checked _).bind fun _ => Fault.accept_silent rfl)
  | invalidEscape line escape => exact .inl (Fault.accept_silent rfl)
  | invalidIdentifier line ident isValid => exact .inr ⟨line, ident, isValid, rfl⟩

end ScanFault
