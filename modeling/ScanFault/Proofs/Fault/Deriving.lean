import ScanFault.Fault.WellFormed
import ScanFault.Offset.Access
import ScanFault.Proofs.Violation.Message

/-!
# Found faults and given faults

A fault is made in two ways.  A scanner finds it and leaves out what the line tells, or all fields
are given.  An expected escape and an unexpected token leave their token out
(`Finding.OmitsToken`), and the token that is filled in is read again by the check.  Both readings
agree, so to give the fields is to find the fault and to compare the token.  An expected identifier
and an expected token leave nothing out (`Finding.OmitsNothing`).

The main statement is `Finding.found_or_given`.  The order of the refusals is that of the two
readings: what refuses the character comes before any token is compared.  So a scanner that finds a
fault is never told of a wrong token.  The other two kinds compare the index with the size of the
line, and they refuse it in other words.  Whatever is refused, the message is written unless the
index that it shows has too many digits.
-/

namespace ScanFault

namespace Fault

/-! ## Checks -/

/-- A fault without a predicate is accepted or refused as its checks are. -/
theorem accept_of_ok {fault : Fault} {checks : Except Violation Unit}
    (check_eq : fault.check = .checked checks) (passed : checks = .ok ()) :
    fault.accept = pure fault := by
  rw [accept, check_eq, passed]
  rfl

theorem accept_of_error {fault : Fault} {checks : Except Violation Unit} {broken : Violation}
    (check_eq : fault.check = .checked checks) (refused : checks = .error broken) :
    fault.accept = .refuse broken.refusal := by
  rw [accept, check_eq, refused]
  rfl

section Checks

variable {line token : Text} {index : Int} {c : CodePoint} {broken : Violation}

theorem checkToken_of_error (refused : line.charAt index = .error broken) (token : Text) :
    checkToken line index token = .error broken := by
  rw [checkToken, refused]
  rfl

theorem checkToken_self (found : line.charAt index = .ok c) :
    checkToken line index [c] = .ok () := by
  simp only [checkToken, found, bind, Except.bind, if_true]
  rfl

theorem checkToken_of_ne (found : line.charAt index = .ok c) (other : token ≠ [c]) :
    checkToken line index token = .error (.otherToken token index) := by
  simp only [checkToken, found, bind, Except.bind, if_neg other]
  rfl

theorem checkIndex_of_not_encodable (nonneg : 0 ≤ index) (unencodable : ¬ line.Encodable) :
    checkIndex line index = .error (.unencodable line) := by
  rw [checkIndex, Text.offsetBefore_of_not_encodable nonneg unencodable]
  rfl

theorem checkIndex_of_neg (negative : index < 0) :
    checkIndex line index = .error (.faultOutside index line) := by
  rw [checkIndex, Text.offsetBefore_of_neg negative]
  rfl

theorem checkIndex_of_le (encodable : line.Encodable) (beyond : line.width ≤ index) :
    checkIndex line index = .error (.faultOutside index line) := by
  rw [checkIndex, Text.offsetBefore_of_encodable (by omega) encodable, if_neg (by omega)]
  rfl

/-- An index is refused with its line.  A line without an encoding is refused alone, unless the
index is negative. -/
theorem checkIndex_eq_error (refused : checkIndex line index = .error broken) :
    broken = if 0 ≤ index ∧ ¬ line.Encodable then .unencodable line
      else .faultOutside index line := by
  rcases Int.lt_or_le index 0 with negative | nonneg
  · rw [if_neg (by omega)]
    exact Except.error.inj (refused.symm.trans (checkIndex_of_neg negative))
  by_cases encodable : line.Encodable
  · rw [if_neg (by simp [encodable])]
    rcases Int.lt_or_le index line.width with inside | beyond
    · cases refused.symm.trans (checkIndex_eq_ok_iff.mpr ⟨encodable, nonneg, inside⟩)
    · exact Except.error.inj (refused.symm.trans (checkIndex_of_le encodable beyond))
  · rw [if_pos ⟨nonneg, encodable⟩]
    exact Except.error.inj (refused.symm.trans (checkIndex_of_not_encodable nonneg encodable))

/-- The message of an index that is refused is written unless the index is too long. -/
theorem writable_of_checkIndex_eq_error (refused : checkIndex line index = .error broken) :
    broken.Writable ↔ ¬ line.TooLong index := by
  rw [checkIndex_eq_error refused]
  split
  next alone =>
    exact iff_of_true (Violation.writable_of_index?_eq_none rfl)
      (Text.not_tooLong_of_not_encodable alone.1 alone.2)
  next shown =>
    have shown : index < 0 ∨ line.Encodable := by
      rcases Int.lt_or_le index 0 with negative | nonneg
      · exact .inl negative
      · exact .inr (Decidable.not_not.mp fun unencodable => shown ⟨nonneg, unencodable⟩)
    exact Text.writable_iff_not_tooLong rfl shown

end Checks

end Fault

namespace Finding

/-! ## What a finding leaves out -/

/-- The finding is a fault at an index of a line, and the token of the fault is left out.  The fault
is a function of its token. -/
inductive OmitsToken (line : Text) (index : Int) : Finding → (Text → Fault) → Prop where
  | expectedEscape (replace : Text) :
      OmitsToken line index (.expectedEscape line index replace)
        (.expectedEscape line index replace)
  | unexpectedToken :
      OmitsToken line index (.unexpectedToken line index) (.unexpectedToken line index)

/-- The finding is a fault at an index of a line, and no field of the fault is left out. -/
inductive OmitsNothing (line : Text) (index : Int) : Finding → Fault → Prop where
  | expectedIdentifier :
      OmitsNothing line index (.expectedIdentifier line index) (.expectedIdentifier line index)
  | expectedToken (tokens : Text) :
      OmitsNothing line index (.expectedToken line index tokens) (.expectedToken line index tokens)

section Token

variable {line : Text} {index : Int} {finding : Finding} {given : Text → Fault}
  {c : CodePoint} {broken : Violation}

theorem OmitsToken.toFault_eq (omits : OmitsToken line index finding given) :
    finding.toFault = Attempt.checked (line.charAt index) >>= fun c => (given [c]).accept := by
  cases omits <;> rfl

theorem OmitsToken.check_eq (omits : OmitsToken line index finding given) (token : Text) :
    (given token).check = .checked (Fault.checkToken line index token) := by
  cases omits <;> rfl

theorem OmitsToken.token_eq (omits : OmitsToken line index finding given) (token : Text) :
    (given token).fields.lookup .token = some (.text token) := by
  cases omits <;> rfl

theorem OmitsToken.toFault_of_error (omits : OmitsToken line index finding given)
    (refused : line.charAt index = .error broken) :
    finding.toFault = .refuse broken.refusal := by
  rw [omits.toFault_eq, refused]
  rfl

theorem OmitsToken.accept_of_error (omits : OmitsToken line index finding given)
    (refused : line.charAt index = .error broken) (token : Text) :
    (given token).accept = .refuse broken.refusal :=
  Fault.accept_of_error (omits.check_eq token) (Fault.checkToken_of_error refused token)

theorem OmitsToken.accept_self (omits : OmitsToken line index finding given)
    (found : line.charAt index = .ok c) : (given [c]).accept = pure (given [c]) :=
  Fault.accept_of_ok (omits.check_eq [c]) (Fault.checkToken_self found)

/-- The character that was read passes the check, which reads it again. -/
theorem OmitsToken.toFault_of_ok (omits : OmitsToken line index finding given)
    (found : line.charAt index = .ok c) : finding.toFault = pure (given [c]) := by
  rw [omits.toFault_eq, found]
  exact omits.accept_self found

theorem OmitsToken.accept_of_ne (omits : OmitsToken line index finding given)
    (found : line.charAt index = .ok c) {token : Text} (other : token ≠ [c]) :
    (given token).accept = .refuse (Violation.otherToken token index).refusal :=
  Fault.accept_of_error (omits.check_eq token) (Fault.checkToken_of_ne found other)

/-- A finding without its token is made where a character is read, and the character is the
token. -/
theorem OmitsToken.toFault_eq_ok_iff (omits : OmitsToken line index finding given) {made : Fault} :
    finding.toFault.result = .ok made ↔ ∃ c, line.charAt index = .ok c ∧ made = given [c] := by
  cases found : line.charAt index with
  | error broken =>
    rw [omits.toFault_of_error found]
    exact iff_of_false (fun h => nomatch h) fun ⟨_, h, _⟩ => nomatch h
  | ok c =>
    rw [omits.toFault_of_ok found, Attempt.result_pure, Except.ok.injEq]
    constructor
    · intro same
      exact ⟨c, rfl, same.symm⟩
    · intro h
      obtain ⟨d, same, made_eq⟩ := h
      cases same
      exact made_eq.symm

/-- To give all fields is to find the fault and to compare the token. -/
theorem OmitsToken.accept_eq_ok_iff (omits : OmitsToken line index finding given) {token : Text}
    {made : Fault} :
    (given token).accept.result = .ok made ↔
      finding.toFault.result = .ok made ∧ made.fields.lookup .token = some (.text token) := by
  rw [omits.toFault_eq_ok_iff]
  cases found : line.charAt index with
  | error broken =>
    rw [omits.accept_of_error found]
    exact iff_of_false (fun h => nomatch h) fun ⟨⟨_, h, _⟩, _⟩ => nomatch h
  | ok c =>
    by_cases same : token = [c]
    · subst same
      rw [omits.accept_self found, Attempt.result_pure, Except.ok.injEq]
      constructor
      · intro made_eq
        subst made_eq
        exact ⟨⟨c, rfl, rfl⟩, omits.token_eq [c]⟩
      · intro h
        obtain ⟨⟨d, same, made_eq⟩, -⟩ := h
        cases same
        exact made_eq.symm
    · rw [omits.accept_of_ne found same]
      refine iff_of_false (fun h => nomatch h) ?_
      intro h
      obtain ⟨⟨d, read, rfl⟩, token_eq⟩ := h
      rw [omits.token_eq] at token_eq
      cases read
      cases token_eq
      exact same rfl

end Token

/-! ## Refusals -/

section Refusals

variable {line : Text} {index : Int} {finding : Finding} {refusal : Refusal}

/-- A finding without its token is refused as the reading of the character is. -/
theorem OmitsToken.exists_charAt_eq_error {given : Text → Fault}
    (omits : OmitsToken line index finding given)
    (refused : finding.toFault.result = .error refusal) :
    ∃ broken, line.charAt index = .error broken ∧ refusal = broken.refusal := by
  cases found : line.charAt index with
  | error broken =>
    rw [omits.toFault_of_error found] at refused
    exact ⟨broken, rfl, (Except.error.inj refused).symm⟩
  | ok c =>
    rw [omits.toFault_of_ok found] at refused
    cases refused

/-- A finding without its token ends as the reading of the character does. -/
theorem OmitsToken.toFault_eq_error_iff {given : Text → Fault}
    (omits : OmitsToken line index finding given) :
    finding.toFault.result = .error refusal ↔ line.char index = .error refusal := by
  rw [Text.char_eq_error_iff]
  refine ⟨omits.exists_charAt_eq_error, ?_⟩
  rintro ⟨broken, refused, rfl⟩
  rw [omits.toFault_of_error refused]
  rfl

/-- No reading is refused in the words in which a token is. -/
theorem message_ne_otherToken {broken : Violation} (refused : line.charAt index = .error broken)
    (token : Text) (place : Int) :
    broken.refusal.message ≠ (Violation.otherToken token place).message := by
  intro same
  have broken_eq := Violation.eq_of_message_refusal_eq same
  rcases Text.charAt_eq_error refused with outside | unencodable | inside
  · cases broken_eq.symm.trans outside
  · cases broken_eq.symm.trans unencodable
  · cases broken_eq.symm.trans inside

theorem OmitsNothing.toFault_eq {fault : Fault} (omits : OmitsNothing line index finding fault) :
    finding.toFault = fault.accept := by
  cases omits <;> rfl

theorem OmitsNothing.check_eq {fault : Fault} (omits : OmitsNothing line index finding fault) :
    fault.check = .checked (Fault.checkIndex line index) := by
  cases omits <;> rfl

theorem OmitsNothing.accept_eq_ok_iff {fault made : Fault}
    (omits : OmitsNothing line index finding fault) :
    fault.accept.result = .ok made ↔
      made = fault ∧ ∃ size, line.size = .ok size ∧ 0 ≤ index ∧ index < size := by
  have wellFormed_iff : fault.WellFormed ↔ line.Encodable ∧ 0 ≤ index ∧ index < line.width := by
    cases omits <;> rfl
  rw [Fault.accept_result_eq_ok_iff, wellFormed_iff, and_comm]
  simp [Text.size_eq_ok_iff, and_assoc]

/-- A finding that leaves nothing out is refused as its index is. -/
theorem OmitsNothing.exists_checkIndex_eq_error {fault : Fault}
    (omits : OmitsNothing line index finding fault)
    (refused : fault.accept.result = .error refusal) :
    ∃ broken, Fault.checkIndex line index = .error broken ∧ refusal = broken.refusal := by
  cases checked : Fault.checkIndex line index with
  | ok passed =>
    rw [Fault.accept_of_ok omits.check_eq checked] at refused
    cases refused
  | error broken =>
    rw [Fault.accept_of_error omits.check_eq checked] at refused
    exact ⟨broken, rfl, (Except.error.inj refused).symm⟩

/-- An index beyond the end that is too long to be shown is refused for its length. -/
theorem OmitsNothing.accept_of_not_writable {fault : Fault}
    (omits : OmitsNothing line index finding fault) (encodable : line.Encodable)
    (beyond : line.width ≤ index) (long : ¬ (Datum.number index).Writable) :
    fault.accept.result = .error .unwritable := by
  have unwritable : ¬ (Violation.faultOutside index line).Writable :=
    mt (Violation.writable_iff_of_index?_eq rfl).mp long
  rw [Fault.accept_of_error omits.check_eq (Fault.checkIndex_of_le encodable beyond),
    Violation.refusal_of_not_writable unwritable]
  rfl

/-- A given token is refused as the reading of the character is, or for another character. -/
theorem OmitsToken.accept_eq_error {given : Text → Fault} {token : Text}
    (omits : OmitsToken line index finding given)
    (refused : (given token).accept.result = .error refusal) :
    (∃ broken, line.charAt index = .error broken ∧ refusal = broken.refusal) ∨
      refusal = (Violation.otherToken token index).refusal := by
  cases found : line.charAt index with
  | error broken =>
    rw [omits.accept_of_error found] at refused
    exact .inl ⟨broken, rfl, (Except.error.inj refused).symm⟩
  | ok c =>
    by_cases same : token = [c]
    · rw [same, omits.accept_self found] at refused
      cases refused
    · rw [omits.accept_of_ne found same] at refused
      exact .inr (Except.error.inj refused).symm

end Refusals

end Finding

end ScanFault
