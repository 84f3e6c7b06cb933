import ScanFault.Fault.Making
import ScanFault.Offset.Lemmas

/-!
# Well-formed faults

What the checks are for.  A well-formed fault is one that its line bears out: its index lies in the
line, its token stands at its index, its escape sequence or word occurs in the line, and its
predicate rejects the word.  This is said without offsets being walked, and
`Fault.accept_result_eq_ok_iff` says that the checks let through exactly the well-formed faults,
unchanged.
-/

namespace ScanFault

namespace Fault

/-- The line bears the fault out. -/
def WellFormed : Fault → Prop
  | expectedIdentifier line index
  | expectedToken line index _ => line.Encodable ∧ 0 ≤ index ∧ index < line.width
  | expectedEscape line index _ token
  | unexpectedToken line index token =>
      line.Encodable ∧ ∃ before c after,
        token = [c] ∧ line = before ++ c :: after ∧ (before.width : Int) = index
  | invalidEscape line escape => ∃ before after, line = before ++ escape ++ after
  | invalidIdentifier line ident isValid =>
      (∃ before after, line = before ++ ident ++ after) ∧ (isValid.judge ident).truth = .ok false

theorem checkIndex_eq_ok_iff {line : Text} {index : Int} :
    checkIndex line index = .ok () ↔ line.Encodable ∧ 0 ≤ index ∧ index < line.width := by
  constructor
  · intro h
    cases made : line.offsetBefore index (.faultOutside index line) with
    | error broken => simp [checkIndex, made, bind, Except.bind] at h
    | ok offset =>
      obtain ⟨encodable, rfl, inside⟩ := Text.offsetBefore_eq_ok_iff.mp made
      exact ⟨encodable, by omega, by omega⟩
  · rintro ⟨encodable, nonneg, inside⟩
    have made : line.offsetBefore index (.faultOutside index line) = .ok index.toNat :=
      Text.offsetBefore_eq_ok_iff.mpr ⟨encodable, by omega, by omega⟩
    simp only [checkIndex, made, bind, Except.bind, pure, Except.pure]

theorem checkToken_eq_ok_iff {line : Text} {index : Int} {token : Text} :
    checkToken line index token = .ok () ↔
      line.Encodable ∧ ∃ before c after,
        token = [c] ∧ line = before ++ c :: after ∧ (before.width : Int) = index := by
  constructor
  · intro h
    cases found : line.charAt index with
    | error broken => simp [checkToken, found, bind, Except.bind] at h
    | ok c =>
      by_cases same : token = [c]
      · obtain ⟨encodable, before, after, line_eq, width_eq⟩ := Text.charAt_eq_ok_iff.mp found
        exact ⟨encodable, before, c, after, same, line_eq, width_eq⟩
      · simp [checkToken, found, same, bind, Except.bind, throw, throwThe,
          MonadExceptOf.throw] at h
  · rintro ⟨encodable, before, c, after, same, line_eq, width_eq⟩
    have found : line.charAt index = .ok c :=
      Text.charAt_eq_ok_iff.mpr ⟨encodable, before, after, line_eq, width_eq⟩
    simp [checkToken, found, same, bind, Except.bind, pure, Except.pure]

theorem checkRejected_result_eq_ok_iff {ident : Text} {isValid : Predicate} :
    (checkRejected ident isValid).result = .ok () ↔ (isValid.judge ident).truth = .ok false := by
  cases truth : (isValid.judge ident).truth with
  | error failure =>
    have asked : (isValid.ask ident).result = .error (.predicateFailed failure) := by
      rw [Predicate.ask, truth]
      rfl
    simp [checkRejected, Attempt.bind_of_error asked]
  | ok b =>
    have asked : (isValid.ask ident).result = .ok b := by
      rw [Predicate.ask, truth]
      rfl
    cases b <;> simp [checkRejected, Attempt.bind_of_ok asked, Attempt.refuse]

theorem check_result_eq_ok_iff {fault : Fault} :
    fault.check.result = .ok () ↔ fault.WellFormed := by
  cases fault with
  | expectedIdentifier line index =>
    exact Attempt.result_checked_eq_ok_iff.trans checkIndex_eq_ok_iff
  | expectedToken line index tokens =>
    exact Attempt.result_checked_eq_ok_iff.trans checkIndex_eq_ok_iff
  | expectedEscape line index replace token =>
    exact Attempt.result_checked_eq_ok_iff.trans checkToken_eq_ok_iff
  | unexpectedToken line index token =>
    exact Attempt.result_checked_eq_ok_iff.trans checkToken_eq_ok_iff
  | invalidEscape line escape =>
    simp only [WellFormed, ← Text.contains_iff]
    by_cases occurs : line.contains escape = true
    · simp [check, occurs, Attempt.done]
    · simp [check, occurs, Attempt.refuse]
  | invalidIdentifier line ident isValid =>
    simp only [WellFormed, ← Text.contains_iff]
    by_cases occurs : line.contains ident = true
    · simp only [check, occurs, if_true, true_and]
      exact checkRejected_result_eq_ok_iff
    · simp [check, occurs, Attempt.refuse]

/-- A fault is accepted exactly when it is well-formed, and it is accepted as it is. -/
theorem accept_result_eq_ok_iff {fault accepted : Fault} :
    fault.accept.result = .ok accepted ↔ fault.WellFormed ∧ accepted = fault := by
  rw [← check_result_eq_ok_iff]
  cases checked : fault.check.result with
  | error refusal => simp [accept, Attempt.bind_of_error checked]
  | ok passed => simp [accept, Attempt.bind_of_ok checked, eq_comm]

theorem wellFormed_of_accept {fault accepted : Fault}
    (made : fault.accept.result = .ok accepted) : accepted.WellFormed := by
  obtain ⟨wellFormed, rfl⟩ := accept_result_eq_ok_iff.mp made
  exact wellFormed

/-- A fault that is made with changes has passed its checks. -/
theorem wellFormed_of_replace {fault changed : Fault} {changes : Changes}
    (made : (fault.replace changes).result = .ok changed) : changed.WellFormed := by
  rw [replace] at made
  split at made
  next => cases made
  next => exact wellFormed_of_accept made

/-- The token is the character that is read at the index. -/
theorem wellFormed_unexpectedToken_iff {line token : Text} {index : Int} :
    (unexpectedToken line index token).WellFormed ↔
      ∃ c, token = [c] ∧ line.charAt index = .ok c := by
  constructor
  · rintro ⟨encodable, before, c, after, token_eq, line_eq, width_eq⟩
    exact ⟨c, token_eq, Text.charAt_eq_ok_iff.mpr ⟨encodable, before, after, line_eq, width_eq⟩⟩
  · rintro ⟨c, token_eq, found⟩
    obtain ⟨encodable, before, after, line_eq, width_eq⟩ := Text.charAt_eq_ok_iff.mp found
    exact ⟨encodable, before, c, after, token_eq, line_eq, width_eq⟩

theorem wellFormed_expectedEscape_iff {line replace token : Text} {index : Int} :
    (expectedEscape line index replace token).WellFormed ↔
      ∃ c, token = [c] ∧ line.charAt index = .ok c :=
  wellFormed_unexpectedToken_iff

end Fault

/-- A fault that is found is well-formed, whatever was left out of the finding. -/
theorem Finding.wellFormed_of_toFault {finding : Finding} {fault : Fault}
    (made : finding.toFault.result = .ok fault) : fault.WellFormed := by
  cases finding with
  | expectedIdentifier line index => exact Fault.wellFormed_of_accept made
  | expectedToken line index tokens => exact Fault.wellFormed_of_accept made
  | expectedEscape line index replace =>
    obtain ⟨c, -, accepted⟩ := Attempt.result_bind_eq_ok_iff.mp made
    exact Fault.wellFormed_of_accept accepted
  | unexpectedToken line index =>
    obtain ⟨c, -, accepted⟩ := Attempt.result_bind_eq_ok_iff.mp made
    exact Fault.wellFormed_of_accept accepted
  | invalidEscape line escape => exact Fault.wellFormed_of_accept made
  | invalidIdentifier line ident isValid => exact Fault.wellFormed_of_accept made

end ScanFault
