import Mathlib.Data.List.Pairwise
import ScanFault.Item

/-!
# Equality of items

Equality of items is an equivalence relation.  Faults are equal when they are of one kind and agree
in everything but the predicate, reports are equal when their current faults are, and no fault is
equal to a report (`Item.beq_iff_alike`).  Equal items have equal hashes under every digest, so a
search by hash and equality finds what a search by equality finds.

`Item.distinct` keeps the first entry of each class of equal items.  What it keeps is in the given
order and pairwise unequal (`Item.distinct_sublist`, `Item.pairwise_distinct`).  For every item, the
first equal entry that is kept is the first equal entry of all (`Item.find?_distinct`).
-/

namespace ScanFault

/-! ## An equivalence relation -/

/-- The faults are of one kind and have the same data.  Their predicates may differ. -/
inductive Fault.Alike : Fault → Fault → Prop where
  | expectedIdentifier (line : Text) (index : Int) :
      Alike (.expectedIdentifier line index) (.expectedIdentifier line index)
  | expectedToken (line : Text) (index : Int) (tokens : Text) :
      Alike (.expectedToken line index tokens) (.expectedToken line index tokens)
  | expectedEscape (line : Text) (index : Int) (replace token : Text) :
      Alike (.expectedEscape line index replace token) (.expectedEscape line index replace token)
  | unexpectedToken (line : Text) (index : Int) (token : Text) :
      Alike (.unexpectedToken line index token) (.unexpectedToken line index token)
  | invalidEscape (line escape : Text) :
      Alike (.invalidEscape line escape) (.invalidEscape line escape)
  | invalidIdentifier (line ident : Text) (isValid isValid' : Predicate) :
      Alike (.invalidIdentifier line ident isValid) (.invalidIdentifier line ident isValid')

/-- Both are faults that are alike, or both are reports whose current faults are alike. -/
inductive Item.Alike : Item → Item → Prop where
  | fault {a b : Fault} : a.Alike b → Alike (.fault a) (.fault b)
  | report {a b : Report} : a.fault.Alike b.fault → Alike (.report a) (.report b)

namespace Fault

theorem Alike.of_key_eq {a b : Fault} (same : a.key = b.key) : a.Alike b := by
  obtain ⟨kind_eq, fields_eq⟩ := Prod.mk.inj same
  cases a with
  | expectedIdentifier line index =>
    cases b <;> cases kind_eq
    cases fields_eq
    exact .expectedIdentifier line index
  | expectedToken line index tokens =>
    cases b <;> cases kind_eq
    cases fields_eq
    exact .expectedToken line index tokens
  | expectedEscape line index replace token =>
    cases b <;> cases kind_eq
    cases fields_eq
    exact .expectedEscape line index replace token
  | unexpectedToken line index token =>
    cases b <;> cases kind_eq
    cases fields_eq
    exact .unexpectedToken line index token
  | invalidEscape line escape =>
    cases b <;> cases kind_eq
    cases fields_eq
    exact .invalidEscape line escape
  | invalidIdentifier line ident isValid =>
    cases b <;> cases kind_eq
    cases fields_eq
    exact .invalidIdentifier line ident _ _

/-- Faults that are alike have the same key, which has no predicate in it. -/
theorem beq_iff_alike {a b : Fault} : (a == b) = true ↔ a.Alike b := by
  rw [beq_iff_key_eq]
  refine ⟨.of_key_eq, fun alike => ?_⟩
  cases alike <;> rfl

theorem Alike.refl (a : Fault) : a.Alike a := .of_key_eq rfl

theorem Alike.symm {a b : Fault} (alike : a.Alike b) : b.Alike a := by
  cases alike <;> constructor

theorem Alike.trans {a b c : Fault} (alike : a.Alike b) (alike' : b.Alike c) : a.Alike c := by
  cases alike <;> cases alike' <;> constructor

end Fault

namespace Item

theorem beq_iff_alike {a b : Item} : (a == b) = true ↔ a.Alike b := by
  constructor
  · intro same
    cases a with
    | fault a =>
      cases b with
      | fault b => exact .fault (Fault.beq_iff_alike.mp same)
      | report b => exact absurd same Bool.false_ne_true
    | report a =>
      cases b with
      | fault b => exact absurd same Bool.false_ne_true
      | report b => exact .report (Fault.beq_iff_alike.mp same)
  · intro alike
    cases alike with
    | fault alike => exact Fault.beq_iff_alike.mpr alike
    | report alike => exact Fault.beq_iff_alike.mpr alike

theorem Alike.refl (a : Item) : a.Alike a := by
  cases a with
  | fault content => exact .fault (.refl content)
  | report content => exact .report (.refl content.fault)

theorem Alike.symm {a b : Item} (alike : a.Alike b) : b.Alike a := by
  cases alike with
  | fault alike => exact .fault alike.symm
  | report alike => exact .report alike.symm

theorem Alike.trans {a b c : Item} (alike : a.Alike b) (alike' : b.Alike c) : a.Alike c := by
  cases alike with
  | fault alike =>
    cases alike' with
    | fault alike' => exact .fault (alike.trans alike')
  | report alike =>
    cases alike' with
    | report alike' => exact .report (alike.trans alike')

instance : EquivBEq Item where
  rfl := beq_iff_alike.mpr (.refl _)
  symm := fun h => beq_iff_alike.mpr (beq_iff_alike.mp h).symm
  trans := fun h h' => beq_iff_alike.mpr ((beq_iff_alike.mp h).trans (beq_iff_alike.mp h'))

/-! ## Hashed search -/

/-- The search by hash finds what the search by equality finds. -/
theorem isAmong_eq_any (digest : Fault.Key → UInt64) (item : Item) (others : List Item) :
    item.isAmong digest others = others.any fun other => other == item := by
  refine List.any_congr rfl fun other => ?_
  cases same : other == item with
  | false => exact Bool.and_false _
  | true => rw [digestBy_eq_of_beq digest same, beq_self_eq_true, Bool.and_true]

theorem isAmong_iff {digest : Fault.Key → UInt64} {item : Item} {others : List Item} :
    item.isAmong digest others = true ↔ ∃ other ∈ others, (other == item) = true := by
  rw [isAmong_eq_any, List.any_eq_true]

/-! ## Distinct entries -/

section Distinct

variable {α : Type} (digest : Fault.Key → UInt64)

theorem distinct_sublist (seen : List Item) (entries : List (α × Item)) :
    (distinct digest seen entries).Sublist entries := by
  induction entries generalizing seen with
  | nil => exact .slnil
  | cons entry entries ih =>
    rw [distinct]
    split
    next => exact (ih seen).cons entry
    next => exact (ih (entry.2 :: seen)).cons_cons entry

/-- What is kept is equal to nothing that was seen before. -/
theorem not_beq_of_mem_distinct {seen : List Item} {entries : List (α × Item)} {entry : α × Item}
    (kept : entry ∈ distinct digest seen entries) {item : Item} (old : item ∈ seen) :
    ¬ (item == entry.2) = true := by
  induction entries generalizing seen with
  | nil => cases kept
  | cons first entries ih =>
    rw [distinct] at kept
    split at kept
    next => exact ih kept old
    next new =>
      cases kept with
      | head => exact fun same => new (isAmong_iff.mpr ⟨item, old, same⟩)
      | tail _ later => exact ih later (.tail _ old)

theorem pairwise_distinct (seen : List Item) (entries : List (α × Item)) :
    (distinct digest seen entries).Pairwise fun a b => ¬ (a.2 == b.2) = true := by
  induction entries generalizing seen with
  | nil => exact .nil
  | cons entry entries ih =>
    rw [distinct]
    split
    next => exact ih seen
    next =>
      refine .cons ?_ (ih (entry.2 :: seen))
      intro later kept
      exact not_beq_of_mem_distinct digest kept (.head _)

/-- The first entry that is equal to an item is kept, as long as nothing equal was seen before. -/
theorem find?_distinct {seen : List Item} {item : Item}
    (new : ∀ old ∈ seen, ¬ (old == item) = true) (entries : List (α × Item)) :
    (distinct digest seen entries).find? (fun entry => entry.2 == item) =
      entries.find? fun entry => entry.2 == item := by
  induction entries generalizing seen with
  | nil => rfl
  | cons entry entries ih =>
    rw [distinct]
    split
    next among =>
      -- The entry is equal to something seen before, and so it is not equal to the item.
      obtain ⟨old, held, same⟩ := isAmong_iff.mp among
      have other : (entry.2 == item) = false :=
        eq_false_of_ne_true fun h => new old held (BEq.trans same h)
      rw [ih new, List.find?_cons, other]
    next =>
      rw [List.find?_cons, List.find?_cons]
      cases here : entry.2 == item with
      | true => rfl
      | false =>
        refine ih fun old held => ?_
        cases held with
        | head => exact ne_true_of_eq_false here
        | tail _ held => exact new old held

/-- Entries that are pairwise unequal are all kept. -/
theorem distinct_eq_self {seen : List Item} {entries : List (α × Item)}
    (new : ∀ entry ∈ entries, ∀ old ∈ seen, ¬ (old == entry.2) = true)
    (apart : entries.Pairwise fun a b => ¬ (a.2 == b.2) = true) :
    distinct digest seen entries = entries := by
  induction entries generalizing seen with
  | nil => rfl
  | cons entry entries ih =>
    obtain ⟨apart_here, apart⟩ := List.pairwise_cons.mp apart
    have fresh : ¬ entry.2.isAmong digest seen = true := by
      intro among
      obtain ⟨old, held, same⟩ := isAmong_iff.mp among
      exact new entry (.head _) old held same
    rw [distinct, if_neg fresh]
    refine congrArg (entry :: ·) (ih ?_ apart)
    intro later listed old held
    cases held with
    | head => exact apart_here later listed
    | tail _ held => exact new later (.tail _ listed) old held

/-- The digest does not matter. -/
theorem distinct_congr (digest' : Fault.Key → UInt64) (seen : List Item)
    (entries : List (α × Item)) :
    distinct digest seen entries = distinct digest' seen entries := by
  induction entries generalizing seen with
  | nil => rfl
  | cons entry entries ih =>
    rw [distinct, distinct, isAmong_eq_any, isAmong_eq_any, ih seen, ih (entry.2 :: seen)]

/-- No two entries that are kept are equal. -/
theorem eq_of_mem_distinct {seen : List Item} {entries : List (α × Item)} {a b : α × Item}
    (kept : a ∈ distinct digest seen entries) (kept' : b ∈ distinct digest seen entries)
    (same : (a.2 == b.2) = true) : a = b := by
  have symmetric : Std.Symm fun a b : α × Item => ¬ (a.2 == b.2) = true :=
    ⟨fun _ _ apart same => apart (BEq.symm same)⟩
  by_contra ne
  exact (pairwise_distinct digest seen entries).forall kept kept' ne same

end Distinct

end Item

end ScanFault
