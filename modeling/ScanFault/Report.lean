import ScanFault.Fault.Rendering

/-!
# Reports

A report carries a fault to whoever handles it.  It remembers the fault that it was made with, and
it has a current fault, which starts as the same one and may be changed.  Everything that is shown
of a report is of the current fault, except when the report is raised.

Only a fault can be reported.  `Report.wrap` takes any candidate and refuses the rest, reports
included.  A duplicate is made the same way: the fault that the report was made with is reported,
and then the current fault is taken over.

A scanner makes the report of what it has found in one go.  There is one way to do so for each kind
of fault, and all of them find the fault and wrap it (`Report.ofFinding`).
-/

namespace ScanFault

/-- A fault on its way to a handler. -/
structure Report where
  /-- The fault that the report was made with. -/
  origin : Fault
  /-- The current fault. -/
  fault : Fault

/-! ## Candidates -/

/-- The types of plain values.  Every type other than the common ones goes by its name. -/
inductive Plain where
  | text
  | integer
  | floating
  | truth
  | absent
  | list
  | tuple
  | dictionary
  | other (name : String)
deriving DecidableEq, Repr

/-- The name of a type of plain values. -/
def Plain.typeName : Plain → String
  | .text => "str"
  | .integer => "int"
  | .floating => "float"
  | .truth => "bool"
  | .absent => "NoneType"
  | .list => "list"
  | .tuple => "tuple"
  | .dictionary => "dict"
  | .other name => name

/-- What may be offered for a report. -/
inductive Candidate where
  /-- A fault. -/
  | fault (offered : Fault)
  /-- A report. -/
  | report (offered : Report)
  /-- A report that was altered. -/
  | altered
  /-- A kind, and no fault of it. -/
  | kind (offered : Kind)
  /-- A plain value of some type. -/
  | plain (type : Plain)

/-- The name of the type of reports. -/
def Report.typeName : String := "Error"

/-- The name of the type of a candidate. -/
def Candidate.typeName : Candidate → String
  | .fault offered => offered.kind.name
  | .report _ | .altered => Report.typeName
  | .kind _ => "type"
  | .plain type => type.typeName

/-! ## Making reports -/

namespace Report

/-- The report of a fault.  Another candidate is refused. -/
def wrap : Candidate → Except Refusal Report
  | .fault offered => .ok ⟨offered, offered⟩
  | candidate => .error (.notAFault candidate.typeName)

/-- A duplicate of a report: the report of the one fault, which takes over the other. -/
def rebuild (origin fault : Fault) : Except Refusal Report := do
  let fresh ← wrap (.fault origin)
  return { fresh with fault }

/-! ## Reports of findings -/

/-- The report of the fault of a finding. -/
def ofFinding (finding : Finding) : Attempt Report := do
  let fault ← finding.toFault
  .ofExcept (wrap (.fault fault))

/-- Reports that an identifier should stand at an index. -/
def expectedIdentifier (line : Text) (index : Int) : Attempt Report :=
  ofFinding (.expectedIdentifier line index)

/-- Reports that one of some tokens should stand at an index. -/
def expectedToken (line : Text) (index : Int) (tokens : Text) : Attempt Report :=
  ofFinding (.expectedToken line index tokens)

/-- Reports that an escape sequence should stand in place of the character at an index. -/
def expectedEscape (line : Text) (index : Int) (replace : Text) : Attempt Report :=
  ofFinding (.expectedEscape line index replace)

/-- Reports that the character at an index should not be there. -/
def unexpectedToken (line : Text) (index : Int) : Attempt Report :=
  ofFinding (.unexpectedToken line index)

/-- Reports an escape sequence that means nothing. -/
def invalidEscape (line escape : Text) : Attempt Report :=
  ofFinding (.invalidEscape line escape)

/-- Reports a word that is no identifier, by the standard rule unless another one is given. -/
def invalidIdentifier (line ident : Text) (isValid : Predicate := .standard) : Attempt Report :=
  ofFinding (.invalidIdentifier line ident isValid)

/-! ## What a report shows -/

/-- The line of the current fault. -/
def line (report : Report) : Text := report.fault.line

/-- The literal form: the literal form of the current fault, wrapped. -/
def literal (report : Report) : Text :=
  Text.ofString typeName ++ "(" ++ report.fault.literal ++ ")"

/-- The line for the user, which is that of the current fault. -/
def render (report : Report) : Except Violation Text := report.fault.render

/-- Reports are compared by their current faults. -/
instance : BEq Report := ⟨fun a b => a.fault == b.fault⟩

end Report

/-- The report of a finding, made in the way of its kind. -/
def Finding.toReport : Finding → Attempt Report
  | expectedIdentifier line index => Report.expectedIdentifier line index
  | expectedToken line index tokens => Report.expectedToken line index tokens
  | expectedEscape line index replace => Report.expectedEscape line index replace
  | unexpectedToken line index => Report.unexpectedToken line index
  | invalidEscape line escape => Report.invalidEscape line escape
  | invalidIdentifier line ident isValid => Report.invalidIdentifier line ident isValid

end ScanFault
