import ScanFault.Proofs.Session.Predicates
import ScanFault.Proofs.Session.Refusing

/-!
# Reports add nothing and hide nothing

The report of a finding is the report of its fault, made on the way.  Everything else is left to the
making of the fault: it is refused for the same cause, and it calls the same predicates
(`Finding.toReport_eq`).

Apart from findings, a report is made of whatever is offered (`Session.Offers`).  Only a fault makes
one, and anything else is refused by the name of its type.  An item may be built in order to be
offered.  When that is refused, nothing is offered, and the refusal stays what it is.  So a refusal
that something is no fault tells that something else was offered, there or in the wrapping of what
was offered (`Session.build_eq_notAFault_iff`), and a finding is never refused in this way.

The main statement is `Session.reports_add_nothing`.
-/

namespace ScanFault

/-! ## Reports of findings -/

namespace Finding

/-- The ways to report a finding, one for each kind of fault.  A word is reported by the standard
rule if no rule is given for it. -/
inductive ReportedBy : Finding → Attempt Report → Prop where
  | expectedIdentifier (line : Text) (index : Int) :
      ReportedBy (.expectedIdentifier line index) (Report.expectedIdentifier line index)
  | expectedToken (line : Text) (index : Int) (tokens : Text) :
      ReportedBy (.expectedToken line index tokens) (Report.expectedToken line index tokens)
  | expectedEscape (line : Text) (index : Int) (replace : Text) :
      ReportedBy (.expectedEscape line index replace) (Report.expectedEscape line index replace)
  | unexpectedToken (line : Text) (index : Int) :
      ReportedBy (.unexpectedToken line index) (Report.unexpectedToken line index)
  | invalidEscape (line escape : Text) :
      ReportedBy (.invalidEscape line escape) (Report.invalidEscape line escape)
  | invalidIdentifier (line ident : Text) (isValid : Predicate) :
      ReportedBy (.invalidIdentifier line ident isValid)
        (Report.invalidIdentifier line ident isValid)
  | standard (line ident : Text) :
      ReportedBy (.invalidIdentifier line ident .standard) (Report.invalidIdentifier line ident)

variable {finding : Finding} {attempt : Attempt Report}

theorem ReportedBy.eq_toReport (reported : finding.ReportedBy attempt) :
    attempt = finding.toReport := by
  cases reported with
  | expectedIdentifier line index => rfl
  | expectedToken line index tokens => rfl
  | expectedEscape line index replace => rfl
  | unexpectedToken line index => rfl
  | invalidEscape line escape => rfl
  | invalidIdentifier line ident isValid => rfl
  | standard line ident => rfl

theorem exists_reportedBy (finding : Finding) : ∃ attempt, finding.ReportedBy attempt := by
  cases finding with
  | expectedIdentifier line index => exact ⟨_, .expectedIdentifier line index⟩
  | expectedToken line index tokens => exact ⟨_, .expectedToken line index tokens⟩
  | expectedEscape line index replace => exact ⟨_, .expectedEscape line index replace⟩
  | unexpectedToken line index => exact ⟨_, .unexpectedToken line index⟩
  | invalidEscape line escape => exact ⟨_, .invalidEscape line escape⟩
  | invalidIdentifier line ident isValid => exact ⟨_, .invalidIdentifier line ident isValid⟩

theorem calls_toReport (finding : Finding) : finding.toReport.calls = finding.toFault.calls := by
  rw [toReport_eq, Attempt.calls_map]

/-- No finding is refused for being no fault. -/
theorem toFault_ne_notAFault (finding : Finding) (typeName : String) :
    finding.toFault.result ≠ .error (.notAFault typeName) := by
  intro refused
  rcases toFault_eq_error refused with ⟨broken, same⟩ | ⟨_, _, _, failure, -, -, same⟩
  · exact broken.refusal_ne_notAFault typeName same.symm
  · cases same

end Finding

/-! ## What is offered for a report -/

/-- All kinds are listed, and then the type of what was offered. -/
theorem Refusal.message_notAFault (typeName : String) :
    (notAFault typeName).message =
      "expected one of ExpectedIdentifier, ExpectedToken, ExpectedEscape, UnexpectedToken, "
        ++ "InvalidEscape, InvalidIdentifier, got " ++ Text.ofString typeName := by
  have kinds : ", ".intercalate (Kind.all.map Kind.name) =
      "ExpectedIdentifier, ExpectedToken, ExpectedEscape, UnexpectedToken, "
        ++ "InvalidEscape, InvalidIdentifier" := rfl
  have listed : "expected one of " ++ ", ".intercalate (Kind.all.map Kind.name) ++ ", got " =
      "expected one of ExpectedIdentifier, ExpectedToken, ExpectedEscape, UnexpectedToken, "
        ++ "InvalidEscape, InvalidIdentifier, got " := by
    rw [kinds]
    simp
  rw [message, ← Text.ofString_append, ← Text.ofString_append, listed, Text.ofString_append]

namespace Session

section Wrapping

variable {session : Session} {builder : Builder} {candidate : Candidate} {refusal : Refusal}

/-- To report a finding is to build its fault and to report that. -/
theorem build_report_eq (session : Session) (finding : Finding) :
    session.build (.report finding) = session.build (.wrapBuilt (.find finding)) := by
  rw [build, build, build, finding.toReport_eq, map_eq_pure_bind, bind_assoc, bind_assoc]
  rfl

/-- What is offered decides. -/
theorem Offers.result_eq (offers : session.Offers builder candidate) :
    (session.build builder).result = (Report.wrap candidate).map Item.report := by
  cases offers with
  | plain plain => rfl
  | kind kind => rfl
  | bound found offered =>
    rw [build, bound_eq_ok_iff.mpr found, Attempt.bind_of_ok rfl, offered, Attempt.bind_of_ok rfl,
      Candidate.wrapped_eq]
  | built made => rw [build, Attempt.bind_of_ok made, Candidate.wrapped_eq]

theorem build_wrapBuilt_of_error (refused : (session.build builder).result = .error refusal) :
    session.build (.wrapBuilt builder) = session.build builder := by
  rw [build, Attempt.bind_of_error refused, ← refused]

theorem misuses_of_build_eq_error {typeName : String}
    (refused : (session.build builder).result = .error (.notAFault typeName)) :
    ∃ candidate, session.Misuses builder candidate ∧ candidate.typeName = typeName := by
  generalize named : Refusal.notAFault typeName = refusal at refused
  cases refuses_of_build_eq_error refused with
  | broken broken => exact absurd named.symm (broken.refusal_ne_notAFault typeName)
  | @misused candidate misuses => exact ⟨candidate, misuses, (Refusal.notAFault.inj named).symm⟩
  | failed failure => cases named
  | unexpected kind field => cases named
  | notAmendable => cases named
  | notPickled failure => cases named
  | unbound absent => cases named
  | untold found no_item => cases named

theorem Misuses.result_eq (misuses : session.Misuses builder candidate) :
    (session.build builder).result = .error (.notAFault candidate.typeName) := by
  induction misuses with
  | offers offers no_fault =>
    rw [offers.result_eq, Report.wrap_of_ne no_fault]
    rfl
  | within misuses refused => rw [build_wrapBuilt_of_error refused, refused]

/-- A build is refused for something that is no fault exactly when such a thing is offered. -/
theorem build_eq_notAFault_iff {typeName : String} :
    (session.build builder).result = .error (.notAFault typeName) ↔
      ∃ candidate, session.Misuses builder candidate ∧ candidate.typeName = typeName := by
  constructor
  · exact misuses_of_build_eq_error
  · rintro ⟨candidate, misuses, rfl⟩
    exact misuses.result_eq

end Wrapping

/-- There is one way to report a finding for each kind of fault.  In each of them the report is made
exactly when the fault of the finding is, and both of its faults are this one.  It is the
well-formed fault that the finding describes.  Otherwise the report is refused as the fault is, for
a broken precondition or because the predicate failed, with the same calls.  To report a finding is
to build its fault and to report that.

Only a fault is reported, and the type of anything else is named.  What is built in order to be
reported is built with the same calls, and refused as if it were not to be reported.  Only something
that is offered and is no fault is refused for that. -/
theorem reports_add_nothing (session : Session) :
    (∀ (finding : Finding) attempt, finding.ReportedBy attempt →
      (∀ report, attempt.result = .ok report ↔
        ∃ fault, finding.toFault.result = .ok fault ∧ report = ⟨fault, fault⟩) ∧
      (∀ fault, finding.toFault.result = .ok fault ↔
        finding.Describes fault ∧ fault.WellFormed) ∧
      (∀ refusal, attempt.result = .error refusal ↔ finding.toFault.result = .error refusal) ∧
      (∀ refusal, finding.toFault.result = .error refusal →
        (∃ broken : Violation, refusal = broken.refusal) ∨
          ∃ line ident isValid failure, finding = .invalidIdentifier line ident isValid ∧
            (isValid.judge ident).truth = .error failure ∧ refusal = .predicateFailed failure) ∧
      (∀ typeName, attempt.result ≠ .error (.notAFault typeName)) ∧
      attempt.calls = finding.toFault.calls ∧
      session.build (.report finding) = Item.report <$> attempt ∧
      session.build (.report finding) = session.build (.wrapBuilt (.find finding))) ∧
    (∀ finding : Finding, ∃ attempt, finding.ReportedBy attempt) ∧
    (∀ candidate report, Report.wrap candidate = .ok report ↔
      ∃ fault, candidate = .fault fault ∧ report = ⟨fault, fault⟩) ∧
    (∀ candidate, (∀ fault, candidate ≠ .fault fault) →
      ∃ refusal, Report.wrap candidate = .error refusal ∧
        refusal = .notAFault candidate.typeName ∧
        refusal.failure = ⟨"TypeError",
          "expected one of ExpectedIdentifier, ExpectedToken, ExpectedEscape, UnexpectedToken, "
            ++ "InvalidEscape, InvalidIdentifier, got " ++ Text.ofString candidate.typeName⟩) ∧
    (∀ builder candidate, session.Offers builder candidate →
      (session.build builder).result = (Report.wrap candidate).map Item.report) ∧
    (∀ builder, (session.build (.wrapBuilt builder)).calls = (session.build builder).calls) ∧
    (∀ builder refusal, (session.build builder).result = .error refusal →
      session.build (.wrapBuilt builder) = session.build builder) ∧
    ∀ builder typeName, (session.build builder).result = .error (.notAFault typeName) ↔
      ∃ candidate, session.Misuses builder candidate ∧ candidate.typeName = typeName := by
  refine ⟨?_, ?_, fun _ _ => Report.wrap_eq_ok_iff, ?_, fun _ _ offers => offers.result_eq,
    session.calls_build_wrapBuilt, fun _ _ => build_wrapBuilt_of_error,
    fun _ _ => build_eq_notAFault_iff⟩
  · intro finding attempt reported
    obtain rfl := reported.eq_toReport
    refine ⟨fun _ => Finding.toReport_eq_ok_iff, fun _ => Finding.toFault_eq_ok_iff,
      fun _ => Finding.toReport_eq_error_iff, fun _ => Finding.toFault_eq_error, ?_,
      finding.calls_toReport, ?_, session.build_report_eq finding⟩
    · intro typeName refused
      exact finding.toFault_ne_notAFault typeName (Finding.toReport_eq_error_iff.mp refused)
    · rw [build, map_eq_pure_bind]
  · intro finding
    exact finding.exists_reportedBy
  · intro candidate no_fault
    refine ⟨_, Report.wrap_of_ne no_fault, rfl, ?_⟩
    rw [Refusal.failure, Refusal.message_notAFault candidate.typeName]
    rfl

/-- The second character of `a#` is reported, and there is no character after it to report.  A rule
that fails on `2x` is asked once, and its failure is passed on.  By the standard rule `2x` is
reported, since it is the rule where none is given.  A kind is not reported, and neither is a report
that is built for it. -/
theorem reports_add_nothing_nested :
    (Report.unexpectedToken "a#" 1).result =
        .ok ⟨.unexpectedToken "a#" 1 "#", .unexpectedToken "a#" 1 "#"⟩ ∧
      (empty.build (.wrapBuilt (.find (.unexpectedToken "a#" 2)))).result =
        .error (.violation (.characterOutside 2 "a#")) ∧
      ((Report.invalidIdentifier "2x" "2x" .failing).result = .error (.predicateFailed
          ⟨"ValueError", "predicate failed on " ++ Text.ofNat 2 ++ " characters"⟩) ∧
        (Report.invalidIdentifier "2x" "2x" .failing).calls = [⟨.failing, "2x"⟩] ∧
        (Predicate.failing.judge "2x").truth =
          .error ⟨"ValueError", "predicate failed on " ++ Text.ofNat 2 ++ " characters"⟩) ∧
      (Report.invalidIdentifier "2x" "2x").result = .ok
        ⟨.invalidIdentifier "2x" "2x" .standard, .invalidIdentifier "2x" "2x" .standard⟩ ∧
      Report.wrap (.kind .unexpectedToken) = .error (.notAFault "type") ∧
      (empty.build (.wrapBuilt (.report (.unexpectedToken "a#" 1)))).result =
        .error (.notAFault "Error") := by
  obtain ⟨found, -, -, wraps, offered, -, nested, -⟩ := reports_add_nothing empty
  refine ⟨?_, ?_, ?_, ?_, ?_, ?_⟩
  · obtain ⟨reported, -⟩ := found _ _ (.unexpectedToken "a#" 1)
    exact (reported _).mpr ⟨.unexpectedToken "a#" 1 "#", rfl, rfl⟩
  · have writable : (Violation.characterOutside 2 "a#").Writable :=
      (Violation.writable_iff_of_index?_eq rfl).mpr (Datum.writable_digit (by decide))
    have outside : (empty.build (.find (.unexpectedToken "a#" 2))).result =
        .error (Violation.characterOutside 2 "a#").refusal := rfl
    rw [nested _ _ outside, outside, Violation.refusal_of_writable writable]
  · obtain ⟨-, -, refused, explained, -, calls, -⟩ :=
      found _ _ (.invalidIdentifier "2x" "2x" .failing)
    have failed : (Finding.invalidIdentifier "2x" "2x" .failing).toFault.result =
        .error (.predicateFailed
          ⟨"ValueError", "predicate failed on " ++ Text.ofNat 2 ++ " characters"⟩) := rfl
    refine ⟨(refused _).mpr failed, calls, ?_⟩
    rcases explained _ failed with ⟨broken, same⟩ | ⟨_, _, _, _, same, truth, passed⟩
    · rcases broken.refusal_cases with violated | unwritable
      · cases same.trans violated
      · cases same.trans unwritable
    · cases same
      cases passed
      exact truth
  · obtain ⟨reported, -⟩ := found _ _ (.standard "2x" "2x")
    exact (reported _).mpr ⟨.invalidIdentifier "2x" "2x" .standard, rfl, rfl⟩
  · have no_fault (fault : Fault) : Candidate.kind .unexpectedToken ≠ .fault fault :=
      fun h => nomatch h
    obtain ⟨_, refused, rfl, -⟩ := wraps _ no_fault
    exact refused
  · have report : (empty.build (.report (.unexpectedToken "a#" 1))).result =
        .ok (.report ⟨.unexpectedToken "a#" 1 "#", .unexpectedToken "a#" 1 "#"⟩) := rfl
    exact offered _ _ (.built report)

end Session

end ScanFault
