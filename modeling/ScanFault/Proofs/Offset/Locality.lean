import ScanFault.Proofs.Offset.Characters

/-!
# Offsets in a longer text

What is found at an offset of a text is found in every longer text around it.  The text in front
shifts the offset by its size, and the text behind makes no difference.  At the seams the two walks
end in different ways: a cut at the end of the text on its own is a cut in front of a character of
the longer one.

The reason is that of two beginnings of one text the one with fewer bytes is a beginning of the
other (`Text.exists_append_of_width_le`).  `Text.cutAt_append_append_iff` moves a cut from a text to
a longer one and back, and `Text.charAt_append_append_iff` does so with a character.  The main
statement is `Text.access_local`.  A text around another only has to be encodable, and where it is
not, nothing in the longer text can be found by offset.
-/

namespace ScanFault

namespace Text

theorem width_eq_zero_iff {text : Text} : text.width = 0 ↔ text = [] := by
  cases text with
  | nil => exact iff_of_true rfl rfl
  | cons c rest =>
    have := c.width_pos
    rw [width_cons]
    exact iff_of_false (by omega) fun h => nomatch h

/-- Of two beginnings of one text, the one with fewer bytes is a beginning of the other. -/
theorem exists_append_of_width_le {first second first' second' : Text}
    (same : first ++ second = first' ++ second') (shorter : first.width ≤ first'.width) :
    ∃ between, first' = first ++ between ∧ second = between ++ second' := by
  rcases List.append_eq_append_iff.mp same with ⟨between, first_eq, second_eq⟩ |
    ⟨between, rfl, second_eq⟩
  · exact ⟨between, first_eq, second_eq⟩
  · rw [width_append] at shorter
    obtain rfl := width_eq_zero_iff.mp (show width between = 0 by omega)
    rw [List.append_nil]
    exact ⟨[], (List.append_nil first').symm, second_eq.symm⟩

section Around

variable {before text after : Text} {index : Int}

/-- The cuts of a text are the cuts of a longer one between its ends, the seams included. -/
theorem cutAt_append_append_iff (encodable : Encodable (before ++ text ++ after))
    (nonneg : 0 ≤ index) (inside : index ≤ text.width) {first second : Text} :
    cutAt (before ++ text ++ after) (before.width + index) = .ok (first, second) ↔
      ∃ left right, text.cutAt index = .ok (left, right) ∧
        first = before ++ left ∧ second = right ++ after := by
  constructor
  · intro made
    obtain ⟨-, text_eq, width_eq⟩ := cutAt_eq_ok_iff.mp made
    rw [List.append_assoc] at text_eq
    obtain ⟨left, rfl, rest_eq⟩ :=
      exists_append_of_width_le text_eq.symm (show before.width ≤ first.width by omega)
    rw [width_append, Int.natCast_add] at width_eq
    obtain ⟨right, rfl, rfl⟩ :=
      exists_append_of_width_le rest_eq.symm (show left.width ≤ text.width by omega)
    have text_encodable := (encodable_append_iff.mp (encodable_append_iff.mp encodable).1).2
    exact ⟨left, right, cutAt_eq_ok_iff.mpr ⟨text_encodable, rfl, by omega⟩, rfl, rfl⟩
  · rintro ⟨left, right, made, rfl, rfl⟩
    obtain ⟨-, rfl, rfl⟩ := cutAt_eq_ok_iff.mp made
    refine cutAt_eq_ok_iff.mpr ⟨encodable, by simp only [List.append_assoc], ?_⟩
    rw [width_append, Int.natCast_add]

/-- The characters of a text are the characters of a longer one between its ends.  At the end of the
text another one may follow. -/
theorem charAt_append_append_iff (encodable : Encodable (before ++ text ++ after))
    (nonneg : 0 ≤ index) (inside : index < text.width) {c : CodePoint} :
    charAt (before ++ text ++ after) (before.width + index) = .ok c ↔
      text.charAt index = .ok c := by
  rw [charAt_eq_ok_iff_cutAt, charAt_eq_ok_iff_cutAt]
  constructor
  · rintro ⟨first, second, made⟩
    obtain ⟨left, right, made, rfl, second_eq⟩ :=
      (cutAt_append_append_iff encodable nonneg (Int.le_of_lt inside)).mp made
    cases right with
    | nil =>
      obtain ⟨-, rfl, rfl⟩ := cutAt_eq_ok_iff.mp made
      rw [List.append_nil] at inside
      exact absurd inside (Int.lt_irrefl _)
    | cons d right =>
      obtain ⟨rfl, -⟩ := List.cons.inj second_eq
      exact ⟨left, right, made⟩
  · rintro ⟨left, right, made⟩
    exact ⟨before ++ left, right ++ after,
      (cutAt_append_append_iff encodable nonneg (Int.le_of_lt inside)).mpr
        ⟨left, c :: right, made, rfl, rfl⟩⟩

/-- A surrogate on either side leaves nothing to be found by offset. -/
theorem not_encodable_append_append (unencodable : ¬ before.Encodable ∨ ¬ after.Encodable) :
    ¬ Encodable (before ++ text ++ after) := by
  intro encodable
  obtain ⟨front, after_encodable⟩ := encodable_append_iff.mp encodable
  rcases unencodable with before_unencodable | after_unencodable
  · exact before_unencodable (encodable_append_iff.mp front).1
  · exact after_unencodable after_encodable

/-- A cut of what is behind a cut is a cut of the whole text, at the sum of the two offsets. -/
theorem cutAt_cutAt {index' : Int} {left right left' right' : Text}
    (made : text.cutAt index = .ok (left, right))
    (made' : right.cutAt index' = .ok (left', right')) :
    text.cutAt (index + index') = .ok (left ++ left', right') := by
  obtain ⟨encodable, rfl, rfl⟩ := cutAt_eq_ok_iff.mp made
  obtain ⟨-, rfl, rfl⟩ := cutAt_eq_ok_iff.mp made'
  refine cutAt_eq_ok_iff.mpr ⟨encodable, List.append_assoc .., ?_⟩
  rw [width_append, Int.natCast_add]

end Around

/-- Access by offset is local.  In an encodable text around another, offsets of the inner text count
from the size of what stands in front of it: a cut is made there when it is made in the inner text,
at both of its ends too, and a character is read there when it is read in the inner text.  With a
surrogate in front or behind, every index that is not negative is refused for the whole text.  Two
cuts one behind the other are one cut. -/
theorem access_local (before text after : Text) :
    (before.Encodable → text.Encodable → after.Encodable →
      ∃ shift size, before.size = .ok shift ∧ text.size = .ok size ∧
        ∀ index : Int, 0 ≤ index →
          (index ≤ size →
            ((∃ parts, cutAt (before ++ text ++ after) (shift + index) = .ok parts) ↔
              ∃ parts, text.cutAt index = .ok parts) ∧
            ∀ left right, text.cutAt index = .ok (left, right) →
              cutAt (before ++ text ++ after) (shift + index) =
                .ok (before ++ left, right ++ after)) ∧
          (index < size → ∀ c,
            charAt (before ++ text ++ after) (shift + index) = .ok c ↔
              text.charAt index = .ok c)) ∧
    (¬ before.Encodable ∨ ¬ after.Encodable → ∀ index : Int, 0 ≤ index →
      cutAt (before ++ text ++ after) index =
        .error (.unencodable (before ++ text ++ after)) ∧
      charAt (before ++ text ++ after) index =
        .error (.unencodable (before ++ text ++ after)) ∧
      (Violation.unencodable (before ++ text ++ after)).message =
        "`string` must be encodable as UTF-8 (string=" ++ quoted (before ++ text ++ after)
          ++ ")") ∧
    ∀ index index' left right left' right', text.cutAt index = .ok (left, right) →
      right.cutAt index' = .ok (left', right') →
      text.cutAt (index + index') = .ok (left ++ left', right') := by
  refine ⟨?_, ?_, ?_⟩
  · intro before_encodable text_encodable after_encodable
    refine ⟨before.width, text.width, size_eq_ok_iff.mpr ⟨before_encodable, rfl⟩,
      size_eq_ok_iff.mpr ⟨text_encodable, rfl⟩, fun index nonneg => ?_⟩
    have encodable : Encodable (before ++ text ++ after) :=
      encodable_append_iff.mpr
        ⟨encodable_append_iff.mpr ⟨before_encodable, text_encodable⟩, after_encodable⟩
    refine ⟨fun inside => ⟨⟨?_, ?_⟩, ?_⟩, fun inside c => ?_⟩
    · rintro ⟨⟨first, second⟩, made⟩
      obtain ⟨left, right, made, -⟩ :=
        (cutAt_append_append_iff encodable nonneg inside).mp made
      exact ⟨(left, right), made⟩
    · rintro ⟨⟨left, right⟩, made⟩
      exact ⟨_, (cutAt_append_append_iff encodable nonneg inside).mpr
        ⟨left, right, made, rfl, rfl⟩⟩
    · intro left right made
      exact (cutAt_append_append_iff encodable nonneg inside).mpr ⟨left, right, made, rfl, rfl⟩
    · exact charAt_append_append_iff encodable nonneg inside
  · intro unencodable index nonneg
    have whole_unencodable : ¬ Encodable (before ++ text ++ after) :=
      not_encodable_append_append unencodable
    exact ⟨cutAt_of_not_encodable nonneg whole_unencodable,
      charAt_of_not_encodable nonneg whole_unencodable, Violation.message_unencodable _⟩
  · intro index index' left right left' right' made made'
    exact cutAt_cutAt made made'

/-- The text `é` between `a` and `b`.  Its ends are the offsets 1 and 3 of the longer text, and the
offset 2 is inside it, as 1 is inside the text alone.  With a surrogate behind it nothing is
found. -/
theorem access_local_seams :
    Encodable "a" ∧ Encodable "é" ∧ Encodable "b" ∧
      cutAt ("a" ++ "é" ++ "b") (1 + 2) = .ok ("a" ++ "é", "b") ∧
      charAt ("a" ++ "é" ++ "b") (1 + 0) = .ok (.ofChar 'é') ∧
      (¬ ∃ parts, cutAt ("a" ++ "é" ++ "b") (1 + 1) = .ok parts) ∧
      cutAt (ofString "a" ++ ofString "é" ++ [⟨0xDC80, by omega⟩]) 1 =
        .error (.unencodable (ofString "a" ++ ofString "é" ++ [⟨0xDC80, by omega⟩])) ∧
      cutAt "éa" (0 + 2) = .ok ("é", "a") := by
  have before_encodable : Encodable "a" := by decide
  have text_encodable : Encodable "é" := by decide
  have after_encodable : Encodable "b" := by decide
  obtain ⟨around, -, -⟩ := access_local "a" "é" "b"
  obtain ⟨shift, size, before_measured, text_measured, here⟩ :=
    around before_encodable text_encodable after_encodable
  cases before_measured
  cases text_measured
  refine ⟨before_encodable, text_encodable, after_encodable, ?_, ?_, ?_, ?_, ?_⟩
  · exact ((here 2 (by decide)).1 (by decide)).2 "é" [] rfl
  · exact ((here 0 (by decide)).2 (by decide) _).mpr rfl
  · intro made
    obtain ⟨parts, made⟩ := ((here 1 (by decide)).1 (by decide)).1.mp made
    cases made
  · obtain ⟨-, refused, -⟩ := access_local "a" "é" [⟨0xDC80, by omega⟩]
    exact (refused (.inr (by decide)) 1 (by decide)).1
  · obtain ⟨-, -, composed⟩ := access_local [] "éa" []
    exact composed 0 2 [] "éa" "é" "a" rfl rfl

end Text

end ScanFault
