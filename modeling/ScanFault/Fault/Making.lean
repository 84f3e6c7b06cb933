import ScanFault.Attempt
import ScanFault.Offset.Basic

/-!
# Making faults

However a fault is made, `Fault.check` looks at all of its fields.

* An expected identifier or token needs an index in its line.  The index may lie inside a character.
* An expected escape or an unexpected token needs the character at the index as its token.
* An invalid escape sequence must occur in the line.
* An invalid identifier must occur in the line, and its predicate must reject it.  The predicate is
  asked last, and only about the identifier.

`Fault.accept` takes the fields as they are.  A `Finding` leaves out the fields that follow from the
line, and `Finding.toFault` fills them in.  `Changes` override some fields of a fault and keep the
rest, and `Fault.replace` checks the outcome as if it were new.  Changes to a field that the fault
does not have are refused before anything is checked.
-/

namespace ScanFault

namespace Fault

/-! ## Checks -/

/-- The index lies in the line. -/
def checkIndex (line : Text) (index : Int) : Except Violation Unit := do
  let _ ← line.offsetBefore index (.faultOutside index line)

/-- The token is the character at the index. -/
def checkToken (line : Text) (index : Int) (token : Text) : Except Violation Unit := do
  let c ← line.charAt index
  unless token = [c] do
    throw (.otherToken token index)

/-- The predicate rejects the identifier. -/
def checkRejected (ident : Text) (isValid : Predicate) : Attempt Unit := do
  if ← isValid.ask ident then
    .refuse (.violation (.identifierValid ident))

/-- Checks the fields of a fault. -/
def check : Fault → Attempt Unit
  | expectedIdentifier line index
  | expectedToken line index _ => .checked (checkIndex line index)
  | expectedEscape line index _ token
  | unexpectedToken line index token => .checked (checkToken line index token)
  | invalidEscape line escape =>
      if line.contains escape then .done ()
      else .refuse (.violation (.escapeNotInLine escape line))
  | invalidIdentifier line ident isValid =>
      if line.contains ident then checkRejected ident isValid
      else .refuse (.violation (.identifierNotInLine ident line))

/-- A fault with the fields as they are, if they pass the checks. -/
def accept (fault : Fault) : Attempt Fault := do
  fault.check
  return fault

end Fault

/-! ## Findings -/

/-- What a scanner says of a fault.  The token at an index is not said, since the line tells it. -/
inductive Finding where
  | expectedIdentifier (line : Text) (index : Int)
  | expectedToken (line : Text) (index : Int) (tokens : Text)
  | expectedEscape (line : Text) (index : Int) (replace : Text)
  | unexpectedToken (line : Text) (index : Int)
  | invalidEscape (line escape : Text)
  | invalidIdentifier (line ident : Text) (isValid : Predicate := .standard)

/-- The fault of a finding. -/
def Finding.toFault : Finding → Attempt Fault
  | expectedIdentifier line index => (Fault.expectedIdentifier line index).accept
  | expectedToken line index tokens => (Fault.expectedToken line index tokens).accept
  | expectedEscape line index replace => do
      let c ← .checked (line.charAt index)
      (Fault.expectedEscape line index replace [c]).accept
  | unexpectedToken line index => do
      let c ← .checked (line.charAt index)
      (Fault.unexpectedToken line index [c]).accept
  | invalidEscape line escape => (Fault.invalidEscape line escape).accept
  | invalidIdentifier line ident isValid => (Fault.invalidIdentifier line ident isValid).accept

/-! ## Changes -/

/-- New values for some fields. -/
structure Changes where
  line : Option Text := none
  index : Option Int := none
  tokens : Option Text := none
  replace : Option Text := none
  token : Option Text := none
  escape : Option Text := none
  ident : Option Text := none
  isValid : Option Predicate := none

namespace Changes

/-- Decides whether there is a new value for a field. -/
def gives (changes : Changes) : Field → Bool
  | .line => changes.line.isSome
  | .index => changes.index.isSome
  | .tokens => changes.tokens.isSome
  | .replace => changes.replace.isSome
  | .token => changes.token.isSome
  | .escape => changes.escape.isSome
  | .ident => changes.ident.isSome
  | .isValid => changes.isValid.isSome
  | .fault | .other _ => false

/-- The first field with a new value that faults of the kind do not have. -/
def foreign? (changes : Changes) (kind : Kind) : Option Field :=
  Field.known.find? fun field => changes.gives field && !kind.has field

/-- The changes of `first`, overridden by those of `second`. -/
def overriddenBy (first second : Changes) : Changes where
  line := second.line <|> first.line
  index := second.index <|> first.index
  tokens := second.tokens <|> first.tokens
  replace := second.replace <|> first.replace
  token := second.token <|> first.token
  escape := second.escape <|> first.escape
  ident := second.ident <|> first.ident
  isValid := second.isValid <|> first.isValid

end Changes

namespace Fault

/-- A fault with some of its fields changed and not checked. -/
def amend (changes : Changes) : Fault → Fault
  | expectedIdentifier line index =>
      expectedIdentifier (changes.line.getD line) (changes.index.getD index)
  | expectedToken line index tokens =>
      expectedToken (changes.line.getD line) (changes.index.getD index)
        (changes.tokens.getD tokens)
  | expectedEscape line index replace token =>
      expectedEscape (changes.line.getD line) (changes.index.getD index)
        (changes.replace.getD replace) (changes.token.getD token)
  | unexpectedToken line index token =>
      unexpectedToken (changes.line.getD line) (changes.index.getD index)
        (changes.token.getD token)
  | invalidEscape line escape =>
      invalidEscape (changes.line.getD line) (changes.escape.getD escape)
  | invalidIdentifier line ident isValid =>
      invalidIdentifier (changes.line.getD line) (changes.ident.getD ident)
        (changes.isValid.getD isValid)

/-- A fault with some fields changed, if it has these fields and all fields pass the checks. -/
def replace (fault : Fault) (changes : Changes) : Attempt Fault :=
  match changes.foreign? fault.kind with
  | some field => .refuse (.unexpectedField fault.kind field)
  | none => (fault.amend changes).accept

end Fault

end ScanFault
