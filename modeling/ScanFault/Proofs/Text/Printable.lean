import Mathlib.Data.List.Chain
import ScanFault.Offset.Lemmas
import ScanFault.Proofs.Text.Quoted

/-!
# Quoted texts are printable

The search in the table of unprintable code points may stop early, since the ranges are ascending.
So a code point is unprintable exactly when a range of the table has it
(`CodePoint.isUnprintable_iff`).  No range has a visible character of ASCII, one has all surrogates,
and some have the code points that end a line.

A literal is written with visible characters of ASCII, apart from printable code points that stand
for themselves (`Text.printable_escaped`).  So the literal of every text is printable
(`Text.printable_quoted`), and what is printable has an encoding (`Text.Printable.encodable`).
-/

namespace ScanFault

namespace CodePoint

/-! ## The table -/

/-- In ascending ranges the search finds every number that a range has. -/
theorem inRanges_iff {ranges : List (Nat × Nat)} {n : Nat}
    (ascending : ranges.Pairwise fun range later => range.1 < later.1) :
    inRanges ranges n = true ↔ ∃ range ∈ ranges, range.1 ≤ n ∧ n ≤ range.2 := by
  induction ranges with
  | nil => exact iff_of_false Bool.false_ne_true fun ⟨_, found, _⟩ => nomatch found
  | cons range ranges ih =>
    obtain ⟨first, last⟩ := range
    obtain ⟨before_later, later_ascending⟩ := List.pairwise_cons.mp ascending
    rw [inRanges, List.exists_mem_cons_iff, ← ih later_ascending]
    by_cases below : n < first
    · -- The later ranges begin further on, so none of them has the number either.
      rw [if_pos below, ih later_ascending]
      refine iff_of_false Bool.false_ne_true ?_
      rintro (⟨from_first, -⟩ | ⟨later, found, from_later, -⟩)
      · exact Nat.not_lt_of_le from_first below
      · exact Nat.lt_asymm below (Nat.lt_of_lt_of_le (before_later later found) from_later)
    · rw [if_neg below, Bool.or_eq_true, decide_eq_true_iff, and_iff_right (Nat.le_of_not_lt below)]

theorem unprintableRanges_ascending :
    unprintableRanges.Pairwise fun range later => range.1 < later.1 :=
  have chain : unprintableRanges.IsChain fun range later => range.1 < later.1 := by decide +kernel
  List.isChain_iff_pairwise.mp chain

theorem isUnprintable_iff {c : CodePoint} :
    c.isUnprintable = true ↔ ∃ range ∈ unprintableRanges, range.1 ≤ c.val ∧ c.val ≤ range.2 :=
  inRanges_iff unprintableRanges_ascending

/-- A visible character of ASCII, or the space. -/
def IsVisible (c : CodePoint) : Prop :=
  0x20 ≤ c.val ∧ c.val ≤ 0x7E

instance (c : CodePoint) : Decidable c.IsVisible :=
  inferInstanceAs (Decidable (0x20 ≤ c.val ∧ c.val ≤ 0x7E))

theorem IsVisible.isUnprintable_eq {c : CodePoint} (visible : c.IsVisible) :
    c.isUnprintable = false := by
  have apart : ∀ range ∈ unprintableRanges, range.2 < 0x20 ∨ 0x7E < range.1 := by decide +kernel
  refine Bool.eq_false_iff.mpr fun unprintable => ?_
  obtain ⟨range, found, from_first, to_last⟩ := isUnprintable_iff.mp unprintable
  obtain ⟨from_space, to_tilde⟩ := visible
  rcases apart range found with below | above
  · exact Nat.not_lt_of_le (Nat.le_trans from_space to_last) below
  · exact Nat.not_lt_of_le (Nat.le_trans from_first to_tilde) above

theorem isSurrogate_eq_of_printable {c : CodePoint} (printable : c.isUnprintable = false) :
    c.isSurrogate = false := by
  have listed : (0xD7FC, 0xF8FF) ∈ unprintableRanges := by decide +kernel
  refine Bool.eq_false_iff.mpr fun surrogate => ?_
  rw [isSurrogate, Bool.and_eq_true, decide_eq_true_iff, decide_eq_true_iff] at surrogate
  refine Bool.eq_false_iff.mp printable (isUnprintable_iff.mpr ⟨_, listed, ?_, ?_⟩)
  · exact Nat.le_trans (by decide) surrogate.1
  · exact Nat.le_trans surrogate.2 (by decide)

theorem isVisible_digit (d : Nat) : (digit d).IsVisible := by
  simp only [IsVisible, digit]
  split
  next => omega
  next => omega

end CodePoint

namespace Text

/-! ## Printable texts -/

/-- Every code point of the text is printable. -/
def Printable (text : Text) : Prop :=
  ∀ c ∈ text, c.isUnprintable = false

theorem printable_cons_iff {c : CodePoint} {rest : Text} :
    Printable (c :: rest) ↔ c.isUnprintable = false ∧ rest.Printable :=
  List.forall_mem_cons

theorem printable_append_iff {before after : Text} :
    Printable (before ++ after) ↔ before.Printable ∧ after.Printable :=
  List.forall_mem_append

theorem printable_of_visible {text : Text} (visible : ∀ c ∈ text, c.IsVisible) : text.Printable :=
  fun c found => (visible c found).isUnprintable_eq

/-- A printable text has no surrogate in it. -/
theorem Printable.encodable {text : Text} (printable : text.Printable) : text.Encodable :=
  fun c found => CodePoint.isSurrogate_eq_of_printable (printable c found)

theorem Printable.size_eq {text : Text} (printable : text.Printable) :
    text.size = .ok text.width :=
  size_of_encodable printable.encodable

/-- The code points that end a line. -/
def lineBreaks : Text :=
  "\n\x0b\x0c\r\x1c\x1d\x1e\x85\u2028\u2029"

theorem Printable.not_mem_lineBreaks {text : Text} (printable : text.Printable) {c : CodePoint}
    (found : c ∈ text) : c ∉ lineBreaks := by
  have unprintable : ∀ c ∈ lineBreaks, c.isUnprintable = true := by decide +kernel
  exact fun ends => Bool.eq_false_iff.mp (printable c found) (unprintable c ends)

/-! ## Numerals -/

theorem isVisible_of_mem_hexadecimal {count n : Nat} {c : CodePoint}
    (found : c ∈ hexadecimal count n) : c.IsVisible := by
  induction count generalizing n with
  | zero => cases found
  | succ count ih =>
    rcases List.mem_append.mp found with higher | last
    · exact ih higher
    · rw [List.mem_singleton.mp last]
      exact CodePoint.isVisible_digit _

theorem printable_ofInt (i : Int) : (ofInt i).Printable := by
  refine printable_of_visible fun c found => ?_
  rcases eq_minus_or_isDecimal_of_mem_ofInt found with rfl | decimal
  · decide
  · exact ⟨Nat.le_trans (by decide) decimal.1, Nat.le_trans decimal.2 (by decide)⟩

/-! ## Literals -/

theorem printable_numericEscape (c : CodePoint) : (numericEscape c).Printable := by
  obtain ⟨letter, count, form, -, written⟩ := numericEscape_cases c
  have letter_visible : letter.IsVisible := by
    rcases form with ⟨rfl, -⟩ | ⟨rfl, -⟩ | ⟨rfl, -⟩ <;> decide
  rw [written]
  refine printable_of_visible fun d found => ?_
  rcases List.mem_cons.mp found with rfl | found
  · decide
  rcases List.mem_cons.mp found with rfl | digit
  · exact letter_visible
  · exact isVisible_of_mem_hexadecimal digit

theorem isVisible_of_isQuote {quote : CodePoint} (isQuote : quote.IsQuote) : quote.IsVisible := by
  rcases isQuote with rfl | rfl <;> decide

/-- What is written for a code point is printable, whatever the code point is. -/
theorem printable_escaped {quote : CodePoint} (isQuote : quote.IsQuote) (c : CodePoint) :
    (escaped quote c).Printable := by
  rcases escaped_cases quote c with ⟨special, written⟩ | ⟨-, written⟩ | ⟨-, written⟩ |
    ⟨-, written⟩ | written | ⟨-, -, printable, written⟩
  · have visible : c.IsVisible := by
      rcases special with rfl | rfl
      · exact isVisible_of_isQuote isQuote
      · decide
    rw [written]
    exact printable_of_visible (List.forall_mem_cons.mpr
      ⟨by decide, List.forall_mem_singleton.mpr visible⟩)
  · rw [written]
    exact printable_of_visible (by decide)
  · rw [written]
    exact printable_of_visible (by decide)
  · rw [written]
    exact printable_of_visible (by decide)
  · rw [written]
    exact printable_numericEscape c
  · rw [written]
    exact List.forall_mem_singleton.mpr printable

/-- The literal of a text is printable, whatever the text holds. -/
theorem printable_quoted (text : Text) : text.quoted.Printable := by
  have quote_printable := (isVisible_of_isQuote text.isQuote_quote).isUnprintable_eq
  rw [quoted, List.cons_append, printable_cons_iff, printable_append_iff]
  refine ⟨quote_printable, ?_, List.forall_mem_singleton.mpr quote_printable⟩
  intro d found
  obtain ⟨c, -, written⟩ := List.mem_flatMap.mp found
  exact printable_escaped text.isQuote_quote c d written

end Text

end ScanFault
