import ScanFault.Fault.Slots
import ScanFault.Report

/-!
# Items

An item is a fault or a report.  A fault is never equal to a report, not even to a report of it.

A duplicate of an item is a copy, or it is pickled.  Nothing is checked for it.  A copy of a report
has the faults of the report for its own, and a pickled report has duplicates of them.

A set of items is searched by hash first and then by equality.  The hash may be any digest of the
kind and the data of a fault, so it forgets what equality forgets, and the hash of a report is that
of its current fault.  `Item.isAmong` and `Item.distinct` take the digest as an argument.  Equal
items have equal hashes, by `Item.digestBy_eq_of_beq`, so the choice does not matter.
-/

namespace ScanFault

/-- The ways to duplicate an item. -/
inductive Manner where
  | copy
  | pickle
deriving DecidableEq, Repr

/-- A fault or a report. -/
inductive Item where
  | fault (content : Fault)
  | report (content : Report)

namespace Item

/-- An item as a candidate for a report. -/
def toCandidate : Item → Candidate
  | fault content => .fault content
  | report content => .report content

/-- The name of the type of an item. -/
def typeName (item : Item) : String := item.toCandidate.typeName

/-- The fault that the item is, or the current fault of the report. -/
def current : Item → Fault
  | fault content => content
  | report content => content.fault

/-- Items are equal when both are faults or both are reports, and these are equal. -/
def equal : Item → Item → Bool
  | fault a, fault b => a == b
  | report a, report b => a == b
  | fault _, report _ => false
  | report _, fault _ => false

instance : BEq Item := ⟨equal⟩

/-! ## Duplicates -/

/-- A copy of an item. -/
def shallowCopy : Item → Except Refusal Item
  | fault content => .ok (.fault content.copied)
  | report content => do
      let fresh ← Report.rebuild content.origin content.fault
      return .report fresh

/-- An item that was pickled and is there again.  Of a report the fault that it was made with is
pickled first. -/
def deepCopy : Item → Except Refusal Item
  | fault content => do
      let fault ← content.pickled
      return .fault fault
  | report content => do
      let origin ← content.origin.pickled
      let fault ← content.fault.pickled
      let fresh ← Report.rebuild origin fault
      return .report fresh

/-- A duplicate of an item. -/
def duplicate (item : Item) : Manner → Except Refusal Item
  | .copy => item.shallowCopy
  | .pickle => item.deepCopy

/-! ## Hashed search -/

/-- The hash of an item under a digest. -/
def digestBy (digest : Fault.Key → UInt64) (item : Item) : UInt64 :=
  digest item.current.key

/-- Equal items have equal hashes. -/
theorem digestBy_eq_of_beq (digest : Fault.Key → UInt64) {a b : Item} (h : (a == b) = true) :
    a.digestBy digest = b.digestBy digest := by
  cases a <;> cases b
  case fault.fault a b => exact congrArg digest (of_decide_eq_true h)
  case report.report a b => exact congrArg digest (of_decide_eq_true h)
  case fault.report => exact absurd h Bool.false_ne_true
  case report.fault => exact absurd h Bool.false_ne_true

/-- Decides whether an equal item is among others: one with the same hash that is equal. -/
def isAmong (digest : Fault.Key → UInt64) (item : Item) (others : List Item) : Bool :=
  others.any fun other => other.digestBy digest == item.digestBy digest && other == item

/-- The entries whose items are equal to none seen before and to none of an earlier entry. -/
def distinct {α : Type} (digest : Fault.Key → UInt64) (seen : List Item) :
    List (α × Item) → List (α × Item)
  | [] => []
  | entry :: entries =>
      if entry.2.isAmong digest seen then distinct digest seen entries
      else entry :: distinct digest (entry.2 :: seen) entries

end Item

end ScanFault
