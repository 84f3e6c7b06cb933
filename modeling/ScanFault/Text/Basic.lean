import ScanFault.CodePoint

/-!
# Texts

A text is a list of code points.  Two adjacent surrogates stay two code points, so this is not a
sequence of characters in the sense of `String`, and a `String` is a text only through
`Text.ofString`.

Texts are compared code point by code point, and a proper beginning of a text comes before it.
That is the order that lists have in core.
-/

namespace ScanFault

/-- A sequence of code points, surrogates included. -/
abbrev Text := List CodePoint

namespace Text

/-- The text of a string. -/
def ofString (string : String) : Text :=
  string.toList.map CodePoint.ofChar

instance : Coe String Text := ⟨ofString⟩

theorem ofString_inj {first second : String} (h : ofString first = ofString second) :
    first = second :=
  String.toList_inj.mp ((List.map_inj_right fun _ _ => CodePoint.ofChar_inj).mp h)

theorem ofString_append (first second : String) :
    ofString (first ++ second) = ofString first ++ ofString second := by
  simp only [ofString, String.toList_append, List.map_append]

/-- Two neighbouring strings in a text are one. -/
theorem ofString_append_append (first second : String) (rest : Text) :
    ofString first ++ (ofString second ++ rest) = ofString (first ++ second) ++ rest := by
  rw [ofString_append, List.append_assoc]

/-- Decides whether `part` occurs in `text` as a run of neighbouring code points. -/
def contains (text part : Text) : Bool :=
  match text with
  | [] => part.isEmpty
  | c :: rest => part.isPrefixOf (c :: rest) || contains rest part

/-- A part occurs in a text exactly when the text can be cut into three with the part between. -/
theorem contains_iff {text part : Text} :
    text.contains part = true ↔ ∃ before after, text = before ++ part ++ after := by
  induction text with
  | nil =>
    simp only [contains, List.isEmpty_iff]
    constructor
    · intro h
      exact ⟨[], [], by simp [h]⟩
    · rintro ⟨before, after, h⟩
      simp only [List.nil_eq_append_iff, List.append_eq_nil_iff] at h
      exact h.1.2
  | cons c rest ih =>
    simp only [contains, Bool.or_eq_true, List.isPrefixOf_iff_prefix, ih]
    constructor
    · rintro (⟨after, h⟩ | ⟨before, after, h⟩)
      · exact ⟨[], after, by simp [h]⟩
      · exact ⟨c :: before, after, by simp [h]⟩
    · rintro ⟨before, after, h⟩
      cases before with
      | nil => exact .inl ⟨after, by simpa using h.symm⟩
      | cons d before =>
        simp only [List.cons_append, List.cons.injEq] at h
        exact .inr ⟨before, after, h.2⟩

end Text

end ScanFault
