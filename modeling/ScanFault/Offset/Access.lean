import ScanFault.Offset.Lemmas
import ScanFault.Refusal

/-!
# Access by byte offset

A scanner asks for the character at an index or for a cut there.  `Text.charAt` and `Text.cutAt` say
where there is one and what is broken elsewhere.  What the scanner gets in place of a character or a
cut is the refusal of the broken precondition (`Violation.refusal`): the message shows the index,
and an index that is too long to be shown is refused for that.

A text without an encoding is shown alone, unless the index is negative, so there the length of the
index does not matter (`Text.TooLong`).
-/

namespace ScanFault

namespace Text

/-- The character whose encoding starts at byte `index`, for a scanner. -/
def char (text : Text) (index : Int) : Except Refusal CodePoint :=
  (text.charAt index).mapError Violation.refusal

/-- The text before byte `index` and the text from it, for a scanner. -/
def cut (text : Text) (index : Int) : Except Refusal (Text × Text) :=
  (text.cutAt index).mapError Violation.refusal

/-- A refusal has to show the index, and the index has more digits than are written. -/
def TooLong (text : Text) (index : Int) : Prop :=
  (index < 0 ∨ text.Encodable) ∧ Nat.pow 10 maxDigits ≤ index.natAbs

instance (text : Text) (index : Int) : Decidable (text.TooLong index) :=
  inferInstanceAs (Decidable ((index < 0 ∨ text.Encodable) ∧ Nat.pow 10 maxDigits ≤ index.natAbs))

section Access

variable {text : Text} {index : Int} {c : CodePoint} {parts : Text × Text} {refusal : Refusal}
  {broken : Violation}

theorem char_eq_ok_iff : text.char index = .ok c ↔ text.charAt index = .ok c :=
  Violation.mapError_refusal_eq_ok_iff

theorem char_eq_error_iff :
    text.char index = .error refusal ↔
      ∃ broken, text.charAt index = .error broken ∧ refusal = broken.refusal :=
  Violation.mapError_refusal_eq_error_iff

theorem cut_eq_ok_iff : text.cut index = .ok parts ↔ text.cutAt index = .ok parts :=
  Violation.mapError_refusal_eq_ok_iff

theorem cut_eq_error_iff :
    text.cut index = .error refusal ↔
      ∃ broken, text.cutAt index = .error broken ∧ refusal = broken.refusal :=
  Violation.mapError_refusal_eq_error_iff

/-! ## Which refusals are written -/

/-- A message that shows the index is written unless the index is too long. -/
theorem writable_iff_not_tooLong (shown : broken.index? = some index)
    (reached : index < 0 ∨ text.Encodable) : broken.Writable ↔ ¬ text.TooLong index := by
  rw [Violation.writable_iff_of_index?_eq shown, Datum.writable_number_iff, TooLong,
    and_iff_right reached, Nat.not_le]

theorem not_tooLong_of_not_encodable (nonneg : 0 ≤ index) (unencodable : ¬ text.Encodable) :
    ¬ text.TooLong index := by
  rintro ⟨negative | encodable, -⟩
  · omega
  · exact unencodable encodable

/-- An index that can be written is not too long. -/
theorem not_tooLong_of_writable (writable : (Datum.number index).Writable) :
    ¬ text.TooLong index := by
  rintro ⟨-, long⟩
  exact Nat.not_lt.mpr long writable

/-- The message of a character that is refused is written unless the index is too long. -/
theorem writable_of_charAt_eq_error (refused : text.charAt index = .error broken) :
    broken.Writable ↔ ¬ text.TooLong index := by
  rcases text.charAt_outcome index with ⟨negative, refused'⟩ | ⟨nonneg, unencodable, refused'⟩ |
    ⟨encodable, -, refused'⟩ | ⟨encodable, -, -, refused'⟩ | ⟨-, before, c, after, -, -, found⟩
  · cases refused.symm.trans refused'
    exact writable_iff_not_tooLong rfl (.inl negative)
  · cases refused.symm.trans refused'
    exact iff_of_true (Violation.writable_of_index?_eq_none rfl)
      (not_tooLong_of_not_encodable nonneg unencodable)
  · cases refused.symm.trans refused'
    exact writable_iff_not_tooLong rfl (.inr encodable)
  · cases refused.symm.trans refused'
    exact writable_iff_not_tooLong rfl (.inr encodable)
  · cases refused.symm.trans found

/-- The message of a cut that is refused is written unless the index is too long. -/
theorem writable_of_cutAt_eq_error (refused : text.cutAt index = .error broken) :
    broken.Writable ↔ ¬ text.TooLong index := by
  rcases text.cutAt_outcome index with ⟨negative, refused'⟩ | ⟨nonneg, unencodable, refused'⟩ |
    ⟨encodable, -, refused'⟩ | ⟨encodable, -, -, refused'⟩ | ⟨-, before, after, -, -, made⟩
  · cases refused.symm.trans refused'
    exact writable_iff_not_tooLong rfl (.inl negative)
  · cases refused.symm.trans refused'
    exact iff_of_true (Violation.writable_of_index?_eq_none rfl)
      (not_tooLong_of_not_encodable nonneg unencodable)
  · cases refused.symm.trans refused'
    exact writable_iff_not_tooLong rfl (.inr encodable)
  · cases refused.symm.trans refused'
    exact writable_iff_not_tooLong rfl (.inr encodable)
  · cases refused.symm.trans made

/-! ## Indices that are too long -/

theorem char_of_not_writable (encodable : text.Encodable) (beyond : text.width ≤ index)
    (long : ¬ (Datum.number index).Writable) : text.char index = .error .unwritable := by
  refine char_eq_error_iff.mpr ⟨_, charAt_of_le encodable beyond, ?_⟩
  rw [Violation.refusal_of_not_writable]
  exact mt (Violation.writable_iff_of_index?_eq rfl).mp long

theorem cut_of_not_writable (encodable : text.Encodable) (beyond : text.width < index)
    (long : ¬ (Datum.number index).Writable) : text.cut index = .error .unwritable := by
  refine cut_eq_error_iff.mpr ⟨_, cutAt_of_lt encodable beyond, ?_⟩
  rw [Violation.refusal_of_not_writable]
  exact mt (Violation.writable_iff_of_index?_eq rfl).mp long

end Access

/-- The least index of 4301 digits is too long, and it lies beyond the end of a short text. -/
theorem ten_pow_beyond_abc :
    Encodable "abc" ∧ (width "abc" : Int) < Nat.pow 10 4300 ∧
      ¬ (Datum.number (Nat.pow 10 4300)).Writable := by
  have long : ¬ (Datum.number (Nat.pow 10 4300)).Writable := by
    rw [← maxDigits_eq]
    exact Datum.not_writable_ten_pow
  have large : (10 : Int) ≤ Nat.pow 10 4300 :=
    Datum.le_of_not_writable long (Int.natCast_nonneg _)
  exact ⟨by decide, Int.lt_of_lt_of_le (by decide) large, long⟩

end Text

/-- What comes out for a broken precondition, when the message is written unless the index is too
long. -/
theorem Violation.failure_of_writable_iff {broken : Violation} {text : Text} {index : Int}
    (writable_iff : broken.Writable ↔ ¬ text.TooLong index) :
    broken.refusal.failure =
      if text.TooLong index then ⟨"ValueError", Refusal.unwritable.message⟩
      else ⟨"AssertionError", broken.message⟩ := by
  rw [broken.failure_refusal]
  by_cases long : text.TooLong index
  · rw [if_neg fun writable => writable_iff.mp writable long, if_pos long]
  · rw [if_pos (writable_iff.mpr long), if_neg long]

theorem Violation.typeName_of_writable_iff {broken : Violation} {text : Text} {index : Int}
    (writable_iff : broken.Writable ↔ ¬ text.TooLong index) :
    broken.refusal.typeName = if text.TooLong index then "ValueError" else "AssertionError" := by
  have failure_eq := congrArg Failure.typeName (failure_of_writable_iff writable_iff)
  rwa [apply_ite Failure.typeName] at failure_eq

end ScanFault
