import ScanFault.Item

/-!
# Views

What can be seen of an item.  `Item.view` shows it as a whole, `Item.get` shows one field,
`Item.pattern` shows what a handler matches on, and `Item.raise` shows what arrives when the item is
raised.  A view holds no fault, so a predicate is seen by its name only.  `Item.judge` asks the
predicate of an item about a text.

A raised report arrives with the fault that it was made with and with the rendering of its current
fault.
-/

namespace ScanFault

/-! ## Whole items -/

/-- A fault as it is seen. -/
structure FaultView where
  kind : Kind
  fields : List (Field × Datum)
  predicate? : Option String
  literal : Text
  rendering : Except Violation Text

/-- A report as it is seen. -/
structure ReportView where
  fault : FaultView
  line : Text
  literal : Text
  rendering : Except Violation Text

/-- An item as it is seen. -/
inductive View where
  | fault (content : FaultView)
  | report (content : ReportView)

/-- The view of a fault. -/
def Fault.view (fault : Fault) : FaultView where
  kind := fault.kind
  fields := fault.fields
  predicate? := fault.predicate?.map Predicate.name
  literal := fault.literal
  rendering := fault.render

/-- The view of a report. -/
def Report.view (report : Report) : ReportView where
  fault := report.fault.view
  line := report.line
  literal := report.literal
  rendering := report.render

/-- The view of an item. -/
def Item.view : Item → View
  | .fault content => .fault content.view
  | .report content => .report content.view

/-! ## Single fields -/

/-- The value of a field. -/
inductive Value where
  /-- A datum. -/
  | datum (content : Datum)
  /-- The name of a predicate. -/
  | predicate (name : String)
  /-- The current fault of a report. -/
  | fault (content : FaultView)

/-- The value of a field of a fault, if the fault has that field. -/
def Fault.get? (fault : Fault) : Field → Option Value
  | .isValid => fault.predicate?.map fun predicate => .predicate predicate.name
  | field => (fault.fields.lookup field).map .datum

/-- The value of a field of a report.  A report has its current fault and the line of it. -/
def Report.get? (report : Report) : Field → Option Value
  | .fault => some (.fault report.fault.view)
  | .line => some (.datum (.text report.line))
  | _ => none

namespace Item

/-- The value of a field, if the item has that field. -/
def get? : Item → Field → Option Value
  | fault content, field => content.get? field
  | report content, field => content.get? field

/-- The value of a field.  An absent field is refused. -/
def get (item : Item) (field : Field) : Except Refusal Value :=
  match item.get? field with
  | some value => .ok value
  | none => .error (.noField item.typeName field)

/-! ## Predicates -/

/-- The predicate of an item.  A report has none, whatever its fault. -/
def predicate? : Item → Option Predicate
  | fault content => content.predicate?
  | report _ => none

/-- The verdict of the predicate of an item on a text. -/
def judge (item : Item) (text : Text) : Attempt Bool :=
  match item.predicate? with
  | none => .refuse (.noField item.typeName .isValid)
  | some predicate => predicate.ask text

end Item

/-! ## Matching and raising -/

/-- What a handler matches on: a head and some data. -/
structure Pattern where
  head : String
  data : List Datum
deriving DecidableEq, Repr

/-- A report shows the kind and the data of its current fault.  Of a bare fault only a token shows,
and only for an expected escape and an unexpected token. -/
def Item.pattern : Item → Pattern
  | .fault (.expectedEscape _ _ _ token)
  | .fault (.unexpectedToken _ _ token) => ⟨"token", [.text token]⟩
  | .fault _ => ⟨"other", []⟩
  | .report content =>
      ⟨Report.typeName ++ "/" ++ content.fault.kind.name, content.fault.fields.map Prod.snd⟩

/-- What arrives when a report is raised. -/
structure Raised where
  /-- The fault that the report was made with. -/
  origin : FaultView
  /-- The rendering of the current fault. -/
  text : Text

/-- Raises an item.  A fault cannot be raised, nor can a report without a rendering. -/
def Item.raise : Item → Except Refusal Raised
  | .fault _ => .error .notRaisable
  | .report content =>
      match content.render with
      | .ok text => .ok ⟨content.origin.view, text⟩
      | .error broken => .error (.violation broken)

end ScanFault
