import ScanFault.Datum
import ScanFault.Predicate

/-!
# Faults

A fault is one syntax error in one line.  There are six kinds, and each has fields of its own.  An
index is a byte offset into the line.  It is an integer, since a fault may be asked for with an
index that makes no sense.  `Fault.check` refuses such a fault.

The fields of a fault are data, apart from the predicate of an invalid identifier.  `Fault.fields`
lists the data in order.  What is shown of a fault and what it is compared by go through that list,
so the predicate is never seen there: two faults are equal when they have the same kind and the same
fields, whatever their predicates.
-/

namespace ScanFault

/-! ## Kinds and fields -/

/-- The kinds of faults. -/
inductive Kind where
  | expectedIdentifier
  | expectedToken
  | expectedEscape
  | unexpectedToken
  | invalidEscape
  | invalidIdentifier
deriving DecidableEq, Hashable, Repr

namespace Kind

/-- The name of a kind. -/
def name : Kind → String
  | expectedIdentifier => "ExpectedIdentifier"
  | expectedToken => "ExpectedToken"
  | expectedEscape => "ExpectedEscape"
  | unexpectedToken => "UnexpectedToken"
  | invalidEscape => "InvalidEscape"
  | invalidIdentifier => "InvalidIdentifier"

/-- Every kind. -/
def all : List Kind :=
  [expectedIdentifier, expectedToken, expectedEscape, unexpectedToken, invalidEscape,
    invalidIdentifier]

/-- The kind with a given name. -/
def ofName? (name : String) : Option Kind :=
  all.find? fun kind => kind.name == name

end Kind

/-- The names of the fields of faults and reports. -/
def Field.names : List String :=
  ["line", "index", "tokens", "replace", "token", "escape", "ident", "is_valid", "kind"]

/-- What faults and reports have by name besides their fields. -/
def Field.methods : List String :=
  ["args", "add_note", "with_traceback", "new", "expected_identifier", "expected_token",
    "expected_escape", "unexpected_token", "invalid_escape", "invalid_identifier"]

/-- Decides whether a name stands for something on a fault or a report.  Names that begin with two
underscores are all taken. -/
def Field.isTaken (name : String) : Bool :=
  names.contains name || methods.contains name || "__".toList.isPrefixOf name.toList

/-- A name that stands for nothing on a fault or a report. -/
abbrev Field.FreeName := { name : String // isTaken name = false }

/-- What can be asked of a fault or a report by name. -/
inductive Field where
  /-- The line with the fault. -/
  | line
  /-- The byte offset of the fault. -/
  | index
  /-- The tokens that may stand at the offset, as the user is to read them. -/
  | tokens
  /-- The escape sequence to write instead. -/
  | replace
  /-- The character at the offset. -/
  | token
  /-- The escape sequence that means nothing. -/
  | escape
  /-- The word that is no identifier. -/
  | ident
  /-- The rule for identifiers. -/
  | isValid
  /-- The fault that a report is about. -/
  | fault
  /-- Something that no fault and no report has. -/
  | other (name : Field.FreeName)
deriving DecidableEq, Hashable, Repr

namespace Field

/-- The name of a field. -/
def name : Field → String
  | line => "line"
  | index => "index"
  | tokens => "tokens"
  | replace => "replace"
  | token => "token"
  | escape => "escape"
  | ident => "ident"
  | isValid => "is_valid"
  | fault => "kind"
  | other name => name.val

/-- The fields that a fault or a report may have. -/
def known : List Field :=
  [line, index, tokens, replace, token, escape, ident, isValid, fault]

/-- No name of a field is missing in the list of these. -/
theorem names_eq : names = known.map name := rfl

/-- The field with a given name.  The name of anything else that faults or reports have is none. -/
def ofName? (name : String) : Option Field :=
  match known.find? fun field => field.name == name with
  | some field => some field
  | none => if free : isTaken name = false then some (other ⟨name, free⟩) else none

end Field

namespace Kind

/-- The fields that hold the data of a fault, in order. -/
def labels : Kind → List Field
  | expectedIdentifier => [.line, .index]
  | expectedToken => [.line, .index, .tokens]
  | expectedEscape => [.line, .index, .replace, .token]
  | unexpectedToken => [.line, .index, .token]
  | invalidEscape => [.line, .escape]
  | invalidIdentifier => [.line, .ident]

/-- All fields of a fault.  The predicate of an invalid identifier is one of them. -/
def fields (kind : Kind) : List Field :=
  match kind with
  | invalidIdentifier => kind.labels ++ [.isValid]
  | _ => kind.labels

/-- Decides whether faults of the kind have the field. -/
def has (kind : Kind) (field : Field) : Bool :=
  kind.fields.contains field

end Kind

/-! ## Faults -/

/-- A syntax error in a line. -/
inductive Fault where
  /-- An identifier should stand at `index`. -/
  | expectedIdentifier (line : Text) (index : Int)
  /-- One of `tokens` should stand at `index`. -/
  | expectedToken (line : Text) (index : Int) (tokens : Text)
  /-- The escape sequence `replace` should stand in place of `token` at `index`. -/
  | expectedEscape (line : Text) (index : Int) (replace token : Text)
  /-- The character `token` at `index` should not be there. -/
  | unexpectedToken (line : Text) (index : Int) (token : Text)
  /-- The escape sequence `escape` means nothing. -/
  | invalidEscape (line escape : Text)
  /-- The word `ident` is no identifier by the rule `isValid`. -/
  | invalidIdentifier (line ident : Text) (isValid : Predicate := .standard)

namespace Fault

/-- The kind of a fault. -/
def kind : Fault → Kind
  | expectedIdentifier .. => .expectedIdentifier
  | expectedToken .. => .expectedToken
  | expectedEscape .. => .expectedEscape
  | unexpectedToken .. => .unexpectedToken
  | invalidEscape .. => .invalidEscape
  | invalidIdentifier .. => .invalidIdentifier

/-- The line of a fault. -/
def line : Fault → Text
  | expectedIdentifier line _
  | expectedToken line _ _
  | expectedEscape line _ _ _
  | unexpectedToken line _ _
  | invalidEscape line _
  | invalidIdentifier line _ _ => line

/-- The data of a fault under the names of their fields, in order. -/
def fields : Fault → List (Field × Datum)
  | expectedIdentifier line index => [(.line, .text line), (.index, .number index)]
  | expectedToken line index tokens =>
      [(.line, .text line), (.index, .number index), (.tokens, .text tokens)]
  | expectedEscape line index replace token =>
      [(.line, .text line), (.index, .number index), (.replace, .text replace),
        (.token, .text token)]
  | unexpectedToken line index token =>
      [(.line, .text line), (.index, .number index), (.token, .text token)]
  | invalidEscape line escape => [(.line, .text line), (.escape, .text escape)]
  | invalidIdentifier line ident _ => [(.line, .text line), (.ident, .text ident)]

/-- The rule for identifiers that a fault carries. -/
def predicate? : Fault → Option Predicate
  | invalidIdentifier _ _ isValid => some isValid
  | _ => none

/-- What a fault is compared by. -/
abbrev Key := Kind × List (Field × Datum)

/-- The kind and the data of a fault. -/
def key (fault : Fault) : Key :=
  (fault.kind, fault.fields)

/-- Faults are compared by kind and data, not by predicate. -/
instance : BEq Fault := ⟨fun a b => decide (a.key = b.key)⟩

theorem beq_iff_key_eq {a b : Fault} : (a == b) = true ↔ a.key = b.key :=
  decide_eq_true_iff

theorem beq_comm (a b : Fault) : (a == b) = (b == a) :=
  decide_eq_decide.mpr eq_comm

/-- The literal form: the name of the kind, then the data under their names. -/
def literal (fault : Fault) : Text :=
  fault.kind.name ++ "("
    ++ Datum.listing (fault.fields.map fun (field, datum) => (field.name, datum)) ++ ")"

end Fault

end ScanFault
