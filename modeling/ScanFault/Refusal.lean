import ScanFault.Fault.Basic
import ScanFault.Violation

/-!
# Refusals

Why something that was asked for was not done.  A violation is the scanner's fault.  The other
causes are a predicate that failed or cannot be pickled, and uses that a fault or a report does not
allow.

A violation is told by its message, and a message with a number that is too long is not written.  So
a broken precondition is refused as `Violation.refusal` says: as the violation, or for the number
that cannot be written.
-/

namespace ScanFault

/-- A cause for which nothing was done. -/
inductive Refusal where
  /-- A precondition does not hold. -/
  | violation (broken : Violation)
  /-- A precondition does not hold, and the message would show a number that is too long. -/
  | unwritable
  /-- The predicate failed. -/
  | predicateFailed (failure : Failure)
  /-- The predicate cannot be pickled. -/
  | notPickled (failure : Failure)
  /-- Only a fault can be reported, and this is a value of another type. -/
  | notAFault (typeName : String)
  /-- A fault of this kind has no such field to change. -/
  | unexpectedField (kind : Kind) (field : Field)
  /-- Only a fault can be changed in part. -/
  | notAmendable
  /-- Only a report can be raised. -/
  | notRaisable
  /-- The fields of a fault cannot be assigned. -/
  | frozenAssignment (field : Field)
  /-- The fields of a fault cannot be deleted. -/
  | frozenDeletion (field : Field)
  /-- A fault has no place for anything but its fields. -/
  | noSlot
  /-- The field of a report cannot be assigned. -/
  | noSetter (field : Field)
  /-- The field of a report cannot be deleted. -/
  | noDeleter (field : Field)
  /-- What a report has from its type does not take the change. -/
  | notChanged (failure : Failure)
  /-- A value of this type has no such field. -/
  | noField (typeName : String) (field : Field)
  /-- Nothing is bound to the name. -/
  | unbound (name : String)
  /-- What becomes of a report that was altered is not told. -/
  | untold
deriving DecidableEq, Repr

namespace Refusal

/-- The name of the type of what is raised.  The last two are words of the session and of nothing
that is raised. -/
def typeName : Refusal → String
  | .violation _ => "AssertionError"
  | .unwritable => "ValueError"
  | .predicateFailed failure
  | .notPickled failure
  | .notChanged failure => failure.typeName
  | .notAFault _ | .unexpectedField _ _ | .notAmendable | .notRaisable | .noSlot => "TypeError"
  | .frozenAssignment _ | .frozenDeletion _ => "FrozenInstanceError"
  | .noSetter _ | .noDeleter _ | .noField _ _ => "AttributeError"
  | .unbound _ => "Unbound"
  | .untold => "Untold"

/-- The message of a refusal. -/
def message : Refusal → Text
  | .violation broken => broken.message
  | .unwritable =>
      "Exceeds the limit (4300 digits) for integer string conversion; "
        ++ "use sys.set_int_max_str_digits() to increase the limit"
  | .predicateFailed failure
  | .notPickled failure
  | .notChanged failure => failure.message
  | .notAFault typeName =>
      "expected one of " ++ Text.ofString (", ".intercalate (Kind.all.map Kind.name))
        ++ ", got " ++ Text.ofString typeName
  | .unexpectedField kind field =>
      Text.ofString kind.name ++ ".__init__() got an unexpected keyword argument '"
        ++ Text.ofString field.name ++ "'"
  | .notAmendable => "replace() should be called on dataclass instances"
  | .notRaisable => "exceptions must derive from BaseException"
  | .frozenAssignment field => "cannot assign to field '" ++ Text.ofString field.name ++ "'"
  | .frozenDeletion field => "cannot delete field '" ++ Text.ofString field.name ++ "'"
  | .noSlot => "super(type, obj): obj must be an instance or subtype of type"
  | .noSetter field =>
      "property '" ++ Text.ofString field.name ++ "' of 'Error' object has no setter"
  | .noDeleter field =>
      "property '" ++ Text.ofString field.name ++ "' of 'Error' object has no deleter"
  | .noField typeName field =>
      "'" ++ Text.ofString typeName ++ "' object has no attribute '"
        ++ Text.ofString field.name ++ "'"
  | .unbound name => name
  | .untold => []

/-- What comes out in place of a value. -/
def failure (refusal : Refusal) : Failure := ⟨refusal.typeName, refusal.message⟩

end Refusal

/-! ## Refusals of broken preconditions -/

namespace Violation

/-- Every value that the message shows can be written. -/
def Writable (broken : Violation) : Prop :=
  ∀ entry ∈ broken.values, entry.2.Writable

instance (broken : Violation) : Decidable broken.Writable :=
  inferInstanceAs (Decidable (∀ entry ∈ broken.values, entry.2.Writable))

/-- The refusal of a broken precondition. -/
def refusal (broken : Violation) : Refusal :=
  if broken.Writable then .violation broken else .unwritable

section Writable

variable {α : Type} {broken other : Violation} {result : Except Violation α}

theorem refusal_of_writable (writable : broken.Writable) : broken.refusal = .violation broken :=
  if_pos writable

theorem refusal_of_not_writable (unwritable : ¬ broken.Writable) : broken.refusal = .unwritable :=
  if_neg unwritable

theorem refusal_eq_violation_iff :
    broken.refusal = .violation other ↔ broken.Writable ∧ broken = other := by
  by_cases writable : broken.Writable
  · rw [refusal_of_writable writable, Refusal.violation.injEq, and_iff_right writable]
  · rw [refusal_of_not_writable writable]
    exact iff_of_false (fun h => nomatch h) fun h => writable h.1

/-- A refusal of a broken precondition is of no other sort. -/
theorem refusal_cases (broken : Violation) :
    broken.refusal = .violation broken ∨ broken.refusal = .unwritable := by
  by_cases writable : broken.Writable
  · exact .inl (refusal_of_writable writable)
  · exact .inr (refusal_of_not_writable writable)

theorem refusal_ne_notAFault (broken : Violation) (typeName : String) :
    broken.refusal ≠ .notAFault typeName := by
  rcases broken.refusal_cases with same | same <;> rw [same] <;> exact fun h => nomatch h

theorem refusal_ne_untold (broken : Violation) : broken.refusal ≠ .untold := by
  rcases broken.refusal_cases with same | same <;> rw [same] <;> exact fun h => nomatch h

theorem failure_refusal (broken : Violation) :
    broken.refusal.failure =
      if broken.Writable then ⟨"AssertionError", broken.message⟩
      else ⟨"ValueError", Refusal.unwritable.message⟩ := by
  by_cases writable : broken.Writable
  · rw [refusal_of_writable writable, if_pos writable]
    rfl
  · rw [refusal_of_not_writable writable, if_neg writable]
    rfl

/-! ## Results of checks -/

theorem mapError_refusal_eq_ok_iff {a : α} :
    result.mapError refusal = .ok a ↔ result = .ok a := by
  cases result with
  | error broken => exact iff_of_false (fun h => nomatch h) fun h => nomatch h
  | ok b =>
    show (Except.ok b : Except Refusal α) = .ok a ↔ _
    rw [Except.ok.injEq, Except.ok.injEq]

theorem mapError_refusal_eq_error_iff {refused : Refusal} :
    result.mapError refusal = .error refused ↔
      ∃ broken, result = .error broken ∧ refused = broken.refusal := by
  cases result with
  | error broken =>
    show (Except.error broken.refusal : Except Refusal α) = .error refused ↔ _
    constructor
    · intro same
      exact ⟨broken, rfl, (Except.error.inj same).symm⟩
    · rintro ⟨other, same, rfl⟩
      rw [Except.error.inj same]
  | ok a => exact iff_of_false (fun h => nomatch h) fun ⟨_, h, _⟩ => nomatch h

end Writable

/-! ## Which messages are written -/

/-- The index that the message shows. -/
def index? : Violation → Option Int
  | characterOutside index _
  | characterInside index _
  | cutOutside index _
  | cutInside index _
  | faultOutside index _
  | otherToken _ index => some index
  | _ => none

/-- A message without an index is always written. -/
theorem writable_of_index?_eq_none {broken : Violation} (shown : broken.index? = none) :
    broken.Writable := by
  cases broken <;> cases shown <;> simp [Writable, values, Datum.writable_text]

theorem refusal_of_index?_eq_none {broken : Violation} (shown : broken.index? = none) :
    broken.refusal = .violation broken :=
  refusal_of_writable (writable_of_index?_eq_none shown)

theorem writable_iff_of_index?_eq {broken : Violation} {index : Int}
    (shown : broken.index? = some index) : broken.Writable ↔ (Datum.number index).Writable := by
  cases broken <;> cases shown <;> simp [Writable, values, Datum.writable_text]

end Violation

end ScanFault
