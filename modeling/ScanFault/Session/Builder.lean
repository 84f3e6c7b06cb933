import ScanFault.Session.Basic

/-!
# Builders

A builder says how to make an item in a session.  `Session.build` makes it, and the session stays as
it is.  A fault is made from a finding or from all of its fields.  A report is made from a finding
or by wrapping, and what is wrapped may itself be built first.  Both can be made from an item that
is bound already, as a duplicate, and a fault also as a copy with changes.

A duplicate of a fault is not checked again, so no predicate is called.  A report that was altered
is no fault whatever has become of it, so it is not reported and not changed in part.
-/

namespace ScanFault

/-- A way to make an item. -/
inductive Builder where
  /-- The fault of a finding. -/
  | find (finding : Finding)
  /-- A fault with all of its fields. -/
  | make (fault : Fault)
  /-- The report of a finding. -/
  | report (finding : Finding)
  /-- A report of a plain value. -/
  | wrapPlain (plain : Plain)
  /-- A report of a kind. -/
  | wrapKind (kind : Kind)
  /-- A report of a bound item. -/
  | wrapBound (name : String)
  /-- A report of a built item. -/
  | wrapBuilt (builder : Builder)
  /-- A duplicate of a bound item. -/
  | duplicate (manner : Manner) (name : String)
  /-- A bound fault with changes. -/
  | replace (name : String) (changes : Changes)

/-- What a name is bound to, with changes.  Only a fault can be changed in part. -/
def Bound.replace (bound : Bound) (changes : Changes) : Attempt Item :=
  match bound with
  | .fault content => do
      let changed ← content.replace changes
      return .fault changed
  | .report _ => .refuse .notAmendable
  | .lost => .refuse .untold

/-- The report of a candidate as an item. -/
def Candidate.wrapped (candidate : Candidate) : Attempt Item := do
  let report ← .ofExcept (Report.wrap candidate)
  return .report report

/-- Makes an item. -/
def Session.build (session : Session) : Builder → Attempt Item
  | .find finding => do
      let fault ← finding.toFault
      return .fault fault
  | .make fault => do
      let fault ← fault.accept
      return .fault fault
  | .report finding => do
      let report ← finding.toReport
      return .report report
  | .wrapPlain plain => (Candidate.plain plain).wrapped
  | .wrapKind kind => (Candidate.kind kind).wrapped
  | .wrapBound name => do
      let bound ← .ofExcept (session.bound name)
      let candidate ← .ofExcept bound.toCandidate
      candidate.wrapped
  | .wrapBuilt builder => do
      let item ← session.build builder
      item.toCandidate.wrapped
  | .duplicate manner name => do
      let item ← .ofExcept (session.lookup name)
      .ofExcept (item.duplicate manner)
  | .replace name changes => do
      let bound ← .ofExcept (session.bound name)
      bound.replace changes

end ScanFault
