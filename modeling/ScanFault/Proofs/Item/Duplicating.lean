import ScanFault.Item

/-!
# Duplicates of items

A duplicate is put together from what its item holds: a fault from its slots, and a report from the
fault that it was made with, before it takes over the current one.  So it is the item again.

A copy is always made.  To pickle an item is to pickle every fault that it holds, so it is refused
exactly when one of them has a predicate that cannot be pickled.  Both are said by
`Item.duplicate_eq_ok_iff`, and `Item.exists_duplicate_eq_notPickled` names the refusal.
-/

namespace ScanFault

namespace Item

/-- The faults that an item holds.  A report holds its current fault and the one that it was made
with. -/
def faults : Item → List Fault
  | fault content => [content]
  | report content => [content.fault, content.origin]

/-- No fault that the item holds has a predicate that cannot be pickled. -/
def Picklable (item : Item) : Prop := ∀ fault ∈ item.faults, fault.unpicklable? = none

/-- The item can be duplicated in this manner. -/
def Duplicable (item : Item) : Manner → Prop
  | .copy => True
  | .pickle => item.Picklable

variable {item made : Item} {manner : Manner}

theorem shallowCopy_eq (item : Item) : item.shallowCopy = .ok item := by
  cases item with
  | fault content => rw [shallowCopy, Fault.copied_eq]
  | report content => rfl

theorem deepCopy_of_picklable (picklable : item.Picklable) : item.deepCopy = .ok item := by
  cases item with
  | fault content =>
    rw [deepCopy, Fault.pickled_of_none (picklable content (.head _))]
    rfl
  | report content =>
    rw [deepCopy, Fault.pickled_of_none (picklable content.origin (.tail _ (.head _))),
      Fault.pickled_of_none (picklable content.fault (.head _))]
    rfl

/-- The first fault that cannot be pickled is the refusal. -/
theorem deepCopy_of_not_picklable (unpicklable : ¬ item.Picklable) :
    ∃ fault ∈ item.faults, ∃ failure, fault.unpicklable? = some failure ∧
      item.deepCopy = .error (.notPickled failure) := by
  cases item with
  | fault content =>
    cases failed : content.unpicklable? with
    | none =>
      have picklable : (Item.fault content).Picklable := List.forall_mem_singleton.mpr failed
      exact absurd picklable unpicklable
    | some failure =>
      refine ⟨content, .head _, failure, failed, ?_⟩
      rw [deepCopy, Fault.pickled_of_some failed]
      rfl
  | report content =>
    cases failed : content.origin.unpicklable? with
    | some failure =>
      refine ⟨content.origin, .tail _ (.head _), failure, failed, ?_⟩
      rw [deepCopy, Fault.pickled_of_some failed]
      rfl
    | none =>
      cases failed' : content.fault.unpicklable? with
      | some failure =>
        refine ⟨content.fault, .head _, failure, failed', ?_⟩
        rw [deepCopy, Fault.pickled_of_none failed, Fault.pickled_of_some failed']
        rfl
      | none =>
        have picklable : (Item.report content).Picklable :=
          List.forall_mem_cons.mpr ⟨failed', List.forall_mem_singleton.mpr failed⟩
        exact absurd picklable unpicklable

/-- What comes out is the item, and something comes out where the manner suits the item. -/
theorem duplicate_eq_ok_iff :
    item.duplicate manner = .ok made ↔ made = item ∧ item.Duplicable manner := by
  cases manner with
  | copy =>
    show item.shallowCopy = .ok made ↔ made = item ∧ True
    rw [shallowCopy_eq, Except.ok.injEq, and_true, eq_comm]
  | pickle =>
    show item.deepCopy = .ok made ↔ made = item ∧ item.Picklable
    by_cases picklable : item.Picklable
    · rw [deepCopy_of_picklable picklable, Except.ok.injEq, and_iff_left picklable, eq_comm]
    · obtain ⟨_, -, _, -, refused⟩ := deepCopy_of_not_picklable picklable
      rw [refused]
      exact iff_of_false (fun h => nomatch h) fun h => picklable h.2

theorem duplicate_of_duplicable (duplicable : item.Duplicable manner) :
    item.duplicate manner = .ok item :=
  duplicate_eq_ok_iff.mpr ⟨rfl, duplicable⟩

/-- A duplicate is refused only in pickling, for a predicate of the item. -/
theorem exists_duplicate_eq_notPickled (unfit : ¬ item.Duplicable manner) :
    ∃ fault ∈ item.faults, ∃ failure, fault.unpicklable? = some failure ∧
      item.duplicate manner = .error (.notPickled failure) := by
  cases manner with
  | copy => exact absurd trivial unfit
  | pickle => exact deepCopy_of_not_picklable unfit

end Item

end ScanFault
