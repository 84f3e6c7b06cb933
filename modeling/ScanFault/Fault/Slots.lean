import ScanFault.Refusal

/-!
# Slots of faults

A fault keeps its fields in slots, and the predicate has a slot like the others.  A fault that is
copied is put together again from the contents of its slots, as they are and without a check.

To pickle a fault is to write the contents down and to read them again.  Texts and numbers can
always be written down.  A predicate is written down as its name, and that is refused for a
predicate that is not found under its name (`Fault.pickled`).
-/

namespace ScanFault

/-- What the slots of faults of a kind hold, in order. -/
def Kind.Slots : Kind → Type
  | expectedIdentifier => Text × Int
  | expectedToken => Text × Int × Text
  | expectedEscape => Text × Int × Text × Text
  | unexpectedToken => Text × Int × Text
  | invalidEscape => Text × Text
  | invalidIdentifier => Text × Text × Predicate

namespace Fault

/-- The contents of the slots of a fault. -/
def slots : (fault : Fault) → fault.kind.Slots
  | expectedIdentifier line index => (line, index)
  | expectedToken line index tokens => (line, index, tokens)
  | expectedEscape line index replace token => (line, index, replace, token)
  | unexpectedToken line index token => (line, index, token)
  | invalidEscape line escape => (line, escape)
  | invalidIdentifier line ident isValid => (line, ident, isValid)

/-- The fault with these contents of its slots. -/
def ofSlots : (kind : Kind) → kind.Slots → Fault
  | .expectedIdentifier, (line, index) => expectedIdentifier line index
  | .expectedToken, (line, index, tokens) => expectedToken line index tokens
  | .expectedEscape, (line, index, replace, token) => expectedEscape line index replace token
  | .unexpectedToken, (line, index, token) => unexpectedToken line index token
  | .invalidEscape, (line, escape) => invalidEscape line escape
  | .invalidIdentifier, (line, ident, isValid) => invalidIdentifier line ident isValid

/-- The slots hold all that there is to a fault. -/
theorem ofSlots_slots (fault : Fault) : ofSlots fault.kind fault.slots = fault := by
  cases fault with
  | expectedIdentifier line index => rfl
  | expectedToken line index tokens => rfl
  | expectedEscape line index replace token => rfl
  | unexpectedToken line index token => rfl
  | invalidEscape line escape => rfl
  | invalidIdentifier line ident isValid => rfl

/-- A fault put together from the slots of another one. -/
def copied (fault : Fault) : Fault := ofSlots fault.kind fault.slots

theorem copied_eq (fault : Fault) : fault.copied = fault := fault.ofSlots_slots

/-! ## Pickling -/

/-- Why a fault cannot be pickled, if it cannot. -/
def unpicklable? (fault : Fault) : Option Failure :=
  fault.predicate?.bind Predicate.unpicklable?

/-- A fault that was pickled and is there again. -/
def pickled (fault : Fault) : Except Refusal Fault :=
  match fault.unpicklable? with
  | some failure => .error (.notPickled failure)
  | none => .ok fault.copied

section Pickled

variable {fault : Fault}

theorem pickled_of_none (picklable : fault.unpicklable? = none) : fault.pickled = .ok fault := by
  rw [pickled, picklable, copied_eq]

theorem pickled_of_some {failure : Failure} (unpicklable : fault.unpicklable? = some failure) :
    fault.pickled = .error (.notPickled failure) := by
  rw [pickled, unpicklable]

end Pickled

end Fault

end ScanFault
