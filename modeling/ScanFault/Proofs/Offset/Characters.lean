import ScanFault.Offset.Access

/-!
# Where a character can be read

To read a character and to cut a text are two walks, written apart.  A cut may be made at the end of
a text and a character is not read there, and that is all the difference between the indices that
they accept.  The character that is read is the first one behind the cut
(`Text.charAt_eq_ok_iff_cutAt`).

The main statement is `Text.char_exactly_at_characters`.  It also tells every refusal: a negative
index comes first, then a text without an encoding, then an index at the end or beyond it, and what
is left lies inside a character.  A refusal that would have to show an index of too many digits says
that instead.
-/

namespace ScanFault

namespace Text

section Reading

variable {text : Text} {index : Int} {c : CodePoint}

/-- The character at an index is the first one behind the cut there. -/
theorem charAt_eq_ok_iff_cutAt :
    text.charAt index = .ok c ↔ ∃ before after, text.cutAt index = .ok (before, c :: after) := by
  rw [charAt_eq_ok_iff]
  constructor
  · rintro ⟨encodable, before, after, rfl, rfl⟩
    exact ⟨before, after, cutAt_append encodable⟩
  · rintro ⟨before, after, made⟩
    obtain ⟨encodable, rfl, width_eq⟩ := cutAt_eq_ok_iff.mp made
    exact ⟨encodable, before, after, rfl, width_eq⟩

theorem charAt_eq_ok_iff_size :
    text.charAt index = .ok c ↔ text.Encodable ∧
      ∃ before after, text = before ++ c :: after ∧ before.size.map Int.ofNat = .ok index := by
  rw [charAt_eq_ok_iff]
  refine and_congr_right fun encodable => exists_congr fun before => exists_congr fun after =>
    and_congr_right fun text_eq => ?_
  subst text_eq
  rw [size_of_encodable (encodable_append_iff.mp encodable).1, Except.map, Except.ok.injEq]
  rfl

/-- The end of a text is where a cut leaves nothing behind it. -/
theorem cutAt_eq_ok_nil_iff {before : Text} :
    text.cutAt index = .ok (before, []) ↔ before = text ∧ text.size.map Int.ofNat = .ok index := by
  rw [cutAt_eq_ok_iff, List.append_nil]
  by_cases encodable : text.Encodable
  · rw [size_of_encodable encodable, Except.map, Except.ok.injEq, and_iff_right encodable]
    refine and_congr_right fun same => ?_
    rw [same]
    rfl
  · rw [size_of_not_encodable encodable]
    exact iff_of_false (fun h => encodable h.1) fun h => nomatch h.2

/-- A character is read wherever a cut is made, but not at the end. -/
theorem exists_charAt_eq_ok_iff_cutAt :
    (∃ c, text.charAt index = .ok c) ↔
      (∃ parts, text.cutAt index = .ok parts) ∧ text.size.map Int.ofNat ≠ .ok index := by
  constructor
  · rintro ⟨c, found⟩
    obtain ⟨before, after, made⟩ := charAt_eq_ok_iff_cutAt.mp found
    refine ⟨⟨_, made⟩, fun at_end => ?_⟩
    cases made.symm.trans (cutAt_eq_ok_nil_iff.mpr ⟨rfl, at_end⟩)
  · rintro ⟨⟨⟨before, after⟩, made⟩, not_end⟩
    cases after with
    | nil => exact absurd (cutAt_eq_ok_nil_iff.mp made).2 not_end
    | cons c after => exact ⟨c, charAt_eq_ok_iff_cutAt.mpr ⟨before, after, made⟩⟩

/-! ## Refusals -/

/-- Where no character is read before the end of an encodable text, the index lies inside one. -/
theorem not_exists_charAt_eq_ok_iff (encodable : text.Encodable) (nonneg : 0 ≤ index)
    (before_end : index < text.width) :
    (¬ ∃ c, text.charAt index = .ok c) ↔ text.IsInside index := by
  obtain ⟨offset, rfl⟩ := Int.eq_ofNat_of_zero_le nonneg
  have before_end : offset < text.width := Int.ofNat_lt.mp before_end
  have read_iff := @exists_charAt_eq_ok_iff text offset
  rw [and_iff_right encodable, and_iff_right before_end] at read_iff
  exact (not_congr read_iff).trans (isInside_iff.trans (and_iff_right before_end)).symm

/-- The first thing that is wrong with an index is what the refusal of a character says. -/
theorem message_of_charAt_eq_error {broken : Violation}
    (refused : text.charAt index = .error broken) :
    broken.message =
      if index < 0 then
        "`index` must be a valid index in `string` (index=" ++ ofInt index ++ ", string="
          ++ text.quoted ++ ")"
      else if ¬ text.Encodable then
        "`string` must be encodable as UTF-8 (string=" ++ text.quoted ++ ")"
      else if text.width ≤ index then
        "`index` must be a valid index in `string` (index=" ++ ofInt index ++ ", string="
          ++ text.quoted ++ ")"
      else
        "`index` is not a valid index in `string` (index=" ++ ofInt index ++ ", string="
          ++ text.quoted ++ ")" := by
  rcases text.charAt_outcome index with ⟨negative, refused'⟩ | ⟨nonneg, unencodable, refused'⟩ |
    ⟨encodable, beyond, refused'⟩ | ⟨encodable, nonneg, inside, refused'⟩ |
    ⟨-, before, c, after, -, -, found⟩
  · cases refused.symm.trans refused'
    rw [if_pos negative]
    exact Violation.message_characterOutside index text
  · cases refused.symm.trans refused'
    rw [if_neg (Int.not_lt.mpr nonneg), if_pos unencodable]
    exact Violation.message_unencodable text
  · cases refused.symm.trans refused'
    have nonneg : 0 ≤ index := Int.le_trans (Int.natCast_nonneg _) beyond
    rw [if_neg (Int.not_lt.mpr nonneg), if_neg (not_not_intro encodable), if_pos beyond]
    exact Violation.message_characterOutside index text
  · cases refused.symm.trans refused'
    rw [if_neg (Int.not_lt.mpr nonneg), if_neg (not_not_intro encodable),
      if_neg (Int.not_le.mpr inside)]
    exact Violation.message_characterInside index text
  · cases refused.symm.trans found

end Reading

end Text

end ScanFault
