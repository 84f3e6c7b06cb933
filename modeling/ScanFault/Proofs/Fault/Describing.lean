import ScanFault.Proofs.Fault.Containing
import ScanFault.Proofs.Fault.Deriving
import ScanFault.Proofs.Violation.Request

/-!
# What a finding says

A finding says of what kind a fault is, and it says some of the data and the rule of the fault
(`Finding.Describes`).  It leaves out at most a token.  The fault of a finding has all of this in
the same fields, and its line bears it out.  Conversely a well-formed fault that a finding describes
is the fault of the finding (`Finding.toFault_eq_ok_iff`), since the line tells the token.

A finding is refused for a broken precondition or because its predicate failed
(`Finding.toFault_eq_error`), and the same holds of a fault with all fields given.
-/

namespace ScanFault

namespace Finding

/-! ## Descriptions -/

/-- The kind of the fault that is found. -/
def kind : Finding → Kind
  | expectedIdentifier .. => .expectedIdentifier
  | expectedToken .. => .expectedToken
  | expectedEscape .. => .expectedEscape
  | unexpectedToken .. => .unexpectedToken
  | invalidEscape .. => .invalidEscape
  | invalidIdentifier .. => .invalidIdentifier

/-- The rule for identifiers that a finding carries. -/
def predicate? : Finding → Option Predicate
  | invalidIdentifier _ _ isValid => some isValid
  | _ => none

/-- The fault is as the finding says. -/
structure Describes (finding : Finding) (fault : Fault) : Prop where
  /-- The fault is of the kind that was found. -/
  kind_eq : fault.kind = finding.kind
  /-- The fault has what was said in the same fields. -/
  fields_subset : finding.fields ⊆ fault.fields
  /-- The fault has the rule that was given. -/
  predicate?_eq : fault.predicate? = finding.predicate?

section Described

variable {line : Text} {index : Int} {finding : Finding} {fault : Fault}

/-- A finding without its token describes a fault up to the token. -/
theorem OmitsToken.describes_iff {given : Text → Fault}
    (omits : OmitsToken line index finding given) :
    finding.Describes fault ↔ ∃ token, fault = given token := by
  constructor
  · rintro ⟨kind_eq, subset, -⟩
    cases omits with
    | expectedEscape replace =>
      cases fault <;> cases kind_eq
      simp_all [fields, Fault.fields]
    | unexpectedToken =>
      cases fault <;> cases kind_eq
      simp_all [fields, Fault.fields]
  · rintro ⟨token, rfl⟩
    cases omits with
    | expectedEscape replace => exact ⟨rfl, List.subset_append_left _ [_], rfl⟩
    | unexpectedToken => exact ⟨rfl, List.subset_append_left _ [_], rfl⟩

/-- A finding that leaves nothing out describes one fault. -/
theorem OmitsNothing.describes_iff {made : Fault} (omits : OmitsNothing line index finding made) :
    finding.Describes fault ↔ fault = made := by
  constructor
  · rintro ⟨kind_eq, subset, -⟩
    cases omits with
    | expectedIdentifier =>
      cases fault <;> cases kind_eq
      simp_all [fields, Fault.fields]
    | expectedToken tokens =>
      cases fault <;> cases kind_eq
      simp_all [fields, Fault.fields]
  · rintro rfl
    cases omits with
    | expectedIdentifier => exact ⟨rfl, List.Subset.refl _, rfl⟩
    | expectedToken tokens => exact ⟨rfl, List.Subset.refl _, rfl⟩

theorem invalidEscape_describes_iff {escape : Text} :
    (invalidEscape line escape).Describes fault ↔ fault = .invalidEscape line escape := by
  constructor
  · rintro ⟨kind_eq, subset, -⟩
    cases fault <;> cases kind_eq
    simp_all [fields, Fault.fields]
  · rintro rfl
    exact ⟨rfl, List.Subset.refl _, rfl⟩

/-- The rule is not among the data, and it is the one that was given all the same. -/
theorem invalidIdentifier_describes_iff {ident : Text} {isValid : Predicate} :
    (invalidIdentifier line ident isValid).Describes fault ↔
      fault = .invalidIdentifier line ident isValid := by
  constructor
  · rintro ⟨kind_eq, subset, predicate_eq⟩
    cases fault <;> cases kind_eq
    cases predicate_eq
    simp_all [fields, Fault.fields]
  · rintro rfl
    exact ⟨rfl, List.Subset.refl _, rfl⟩

end Described

/-! ## What is found -/

section Found

variable {line : Text} {index : Int} {finding : Finding} {fault : Fault}

theorem OmitsToken.toFault_eq_ok_iff_describes {given : Text → Fault}
    (omits : OmitsToken line index finding given) :
    finding.toFault.result = .ok fault ↔ finding.Describes fault ∧ fault.WellFormed := by
  have wellFormed_iff (token : Text) :
      (given token).WellFormed ↔ ∃ c, token = [c] ∧ line.charAt index = .ok c := by
    cases omits with
    | expectedEscape replace => exact Fault.wellFormed_expectedEscape_iff
    | unexpectedToken => exact Fault.wellFormed_unexpectedToken_iff
  rw [omits.toFault_eq_ok_iff, omits.describes_iff]
  constructor
  · rintro ⟨c, found, rfl⟩
    exact ⟨⟨[c], rfl⟩, (wellFormed_iff [c]).mpr ⟨c, rfl, found⟩⟩
  · rintro ⟨⟨token, rfl⟩, wellFormed⟩
    obtain ⟨c, rfl, found⟩ := (wellFormed_iff token).mp wellFormed
    exact ⟨c, found, rfl⟩

/-- A finding that says all is found when the fault that it describes is well-formed. -/
theorem toFault_eq_ok_iff_of_describes_iff {given : Fault}
    (toFault_eq : finding.toFault = given.accept)
    (describes_iff : finding.Describes fault ↔ fault = given) :
    finding.toFault.result = .ok fault ↔ finding.Describes fault ∧ fault.WellFormed := by
  rw [toFault_eq, Fault.accept_result_eq_ok_iff, describes_iff, and_comm]
  refine and_congr_right fun same => ?_
  rw [same]

/-- What is found is a well-formed fault that the finding describes, and every such fault is
found. -/
theorem toFault_eq_ok_iff :
    finding.toFault.result = .ok fault ↔ finding.Describes fault ∧ fault.WellFormed := by
  cases finding with
  | expectedIdentifier line index =>
    exact toFault_eq_ok_iff_of_describes_iff rfl OmitsNothing.expectedIdentifier.describes_iff
  | expectedToken line index tokens =>
    exact toFault_eq_ok_iff_of_describes_iff rfl (OmitsNothing.expectedToken tokens).describes_iff
  | expectedEscape line index replace =>
    exact (OmitsToken.expectedEscape replace).toFault_eq_ok_iff_describes
  | unexpectedToken line index => exact OmitsToken.unexpectedToken.toFault_eq_ok_iff_describes
  | invalidEscape line escape =>
    exact toFault_eq_ok_iff_of_describes_iff rfl invalidEscape_describes_iff
  | invalidIdentifier line ident isValid =>
    exact toFault_eq_ok_iff_of_describes_iff rfl invalidIdentifier_describes_iff

end Found

end Finding

/-! ## What is refused -/

/-- A fault is refused for a broken precondition, or because its predicate fails on the word. -/
theorem Fault.accept_eq_error {fault : Fault} {refusal : Refusal}
    (refused : fault.accept.result = .error refusal) :
    (∃ broken : Violation, refusal = broken.refusal) ∨
      ∃ line ident isValid failure, fault = .invalidIdentifier line ident isValid ∧
        (isValid.judge ident).truth = .error failure ∧ refusal = .predicateFailed failure := by
  cases fault with
  | expectedIdentifier line index =>
    obtain ⟨broken, -, same⟩ :=
      Finding.OmitsNothing.expectedIdentifier.exists_checkIndex_eq_error refused
    exact .inl ⟨broken, same⟩
  | expectedToken line index tokens =>
    obtain ⟨broken, -, same⟩ :=
      (Finding.OmitsNothing.expectedToken tokens).exists_checkIndex_eq_error refused
    exact .inl ⟨broken, same⟩
  | expectedEscape line index replace token =>
    rcases (Finding.OmitsToken.expectedEscape replace).accept_eq_error refused with
      ⟨broken, -, same⟩ | same
    · exact .inl ⟨broken, same⟩
    · exact .inl ⟨_, same⟩
  | unexpectedToken line index token =>
    rcases Finding.OmitsToken.unexpectedToken.accept_eq_error refused with ⟨broken, -, same⟩ | same
    · exact .inl ⟨broken, same⟩
    · exact .inl ⟨_, same⟩
  | invalidEscape line escape =>
    exact .inl ⟨_, (Finding.invalidEscape_eq_error refused).trans
      (Violation.refusal_of_index?_eq_none rfl).symm⟩
  | invalidIdentifier line ident isValid =>
    rcases (accept_disciplined line ident isValid).refusal_eq refused with
      same | same | ⟨failure, failed, same⟩
    · exact .inl ⟨_, same.trans (Violation.refusal_of_index?_eq_none rfl).symm⟩
    · exact .inl ⟨_, same.trans (Violation.refusal_of_index?_eq_none rfl).symm⟩
    · exact .inr ⟨line, ident, isValid, failure, rfl, failed, same⟩

theorem Finding.toFault_eq_error {finding : Finding} {refusal : Refusal}
    (refused : finding.toFault.result = .error refusal) :
    (∃ broken : Violation, refusal = broken.refusal) ∨
      ∃ line ident isValid failure, finding = .invalidIdentifier line ident isValid ∧
        (isValid.judge ident).truth = .error failure ∧ refusal = .predicateFailed failure := by
  cases finding with
  | expectedIdentifier line index =>
    obtain ⟨broken, -, same⟩ := OmitsNothing.expectedIdentifier.exists_checkIndex_eq_error refused
    exact .inl ⟨broken, same⟩
  | expectedToken line index tokens =>
    obtain ⟨broken, -, same⟩ :=
      (OmitsNothing.expectedToken tokens).exists_checkIndex_eq_error refused
    exact .inl ⟨broken, same⟩
  | expectedEscape line index replace =>
    obtain ⟨broken, -, same⟩ := (OmitsToken.expectedEscape replace).exists_charAt_eq_error refused
    exact .inl ⟨broken, same⟩
  | unexpectedToken line index =>
    obtain ⟨broken, -, same⟩ := OmitsToken.unexpectedToken.exists_charAt_eq_error refused
    exact .inl ⟨broken, same⟩
  | invalidEscape line escape =>
    exact .inl ⟨_, (invalidEscape_eq_error refused).trans
      (Violation.refusal_of_index?_eq_none rfl).symm⟩
  | invalidIdentifier line ident isValid =>
    rcases (Fault.accept_disciplined line ident isValid).refusal_eq refused with
      same | same | ⟨failure, failed, same⟩
    · exact .inl ⟨_, same.trans (Violation.refusal_of_index?_eq_none rfl).symm⟩
    · exact .inl ⟨_, same.trans (Violation.refusal_of_index?_eq_none rfl).symm⟩
    · exact .inr ⟨line, ident, isValid, failure, rfl, failed, same⟩

end ScanFault
