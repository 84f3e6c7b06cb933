import ScanFault.Identifier
import ScanFault.Proofs.Text.Numerals

/-!
# What the tests for characters accept

`Text.isIdentifierHead` and `Text.isIdentifierPart` compare whole texts, and a text may be of any
length.  In the order of texts the first difference decides, and a proper beginning comes before the
text (`Text.lt_iff`).  So the two ends of a range differ.  Whatever begins with the first character
of the range lies in it, and nothing that begins with the last character does, except that character
alone (`Text.between_iff`).

On texts of one code point the tests are membership in the classes `[A-Za-z_]` and `[A-Za-z0-9_]`
(`CodePoint.IsLetter`, `CodePoint.IsWord`).  The main statement is
`Text.character_tests_on_whole_texts`.
-/

namespace ScanFault

namespace CodePoint

/-- A code point of the range from one character to another, both included. -/
def IsBetween (first last : Char) (c : CodePoint) : Prop :=
  (ofChar first).val ≤ c.val ∧ c.val ≤ (ofChar last).val

instance (first last : Char) (c : CodePoint) : Decidable (c.IsBetween first last) :=
  inferInstanceAs (Decidable ((ofChar first).val ≤ c.val ∧ c.val ≤ (ofChar last).val))

/-- A code point of the class `[A-Za-z_]`. -/
def IsLetter (c : CodePoint) : Prop :=
  c.IsBetween 'A' 'Z' ∨ c.IsBetween 'a' 'z' ∨ c = ofChar '_'

instance (c : CodePoint) : Decidable c.IsLetter :=
  inferInstanceAs (Decidable (c.IsBetween 'A' 'Z' ∨ c.IsBetween 'a' 'z' ∨ c = ofChar '_'))

/-- A code point of the class `[A-Za-z0-9_]`. -/
def IsWord (c : CodePoint) : Prop :=
  c.IsLetter ∨ c.IsBetween '0' '9'

instance (c : CodePoint) : Decidable c.IsWord :=
  inferInstanceAs (Decidable (c.IsLetter ∨ c.IsBetween '0' '9'))

end CodePoint

namespace Text

/-! ## The order of texts -/

/-- A text comes before another when it is a proper beginning of it, or when it has the lower code
point at the first difference. -/
theorem lt_iff {first second : Text} :
    first < second ↔ (∃ c rest, second = first ++ c :: rest) ∨
      ∃ common c d x y, first = common ++ c :: x ∧ second = common ++ d :: y ∧ c.val < d.val := by
  constructor
  · intro before
    induction first generalizing second with
    | nil =>
      cases second with
      | nil => exact absurd before (List.not_lt_nil _)
      | cons d second => exact .inl ⟨d, second, rfl⟩
    | cons c first ih =>
      cases second with
      | nil => exact absurd before (List.not_lt_nil _)
      | cons d second =>
        rcases List.cons_lt_cons_iff.mp before with lower | ⟨rfl, rest_before⟩
        · exact .inr ⟨[], c, d, first, second, rfl, rfl, lower⟩
        · rcases ih rest_before with ⟨e, rest, rfl⟩ | ⟨common, e, f, x, y, rfl, rfl, lower⟩
          · exact .inl ⟨e, rest, rfl⟩
          · exact .inr ⟨c :: common, e, f, x, y, rfl, rfl, lower⟩
  · rintro (⟨c, rest, rfl⟩ | ⟨common, c, d, x, y, rfl, rfl, lower⟩)
    · induction first with
      | nil => exact List.nil_lt_cons c rest
      | cons d first ih => exact List.cons_lt_cons_iff.mpr (.inr ⟨rfl, ih⟩)
    · induction common with
      | nil => exact List.cons_lt_cons_iff.mpr (.inl lower)
      | cons e common ih => exact List.cons_lt_cons_iff.mpr (.inr ⟨rfl, ih⟩)

/-- A text does not come before a single code point when it begins with that one or a higher one. -/
theorem singleton_le_cons_iff {first c : CodePoint} {rest : Text} :
    [first] ≤ c :: rest ↔ first.val ≤ c.val := by
  rw [← List.not_lt, List.cons_lt_cons_iff, CodePoint.lt_iff]
  constructor
  · intro not_before
    exact Nat.le_of_not_lt fun lower => not_before (.inl lower)
  · rintro le (lower | ⟨-, rest_before⟩)
    · exact Nat.not_lt_of_le le lower
    · exact List.not_lt_nil _ rest_before

/-- A text does not come behind a single code point when it begins with a lower one or has nothing
else. -/
theorem cons_le_singleton_iff {last c : CodePoint} {rest : Text} :
    c :: rest ≤ [last] ↔ c.val < last.val ∨ c :: rest = [last] := by
  rw [← List.not_lt, List.cons_lt_cons_iff, CodePoint.lt_iff]
  constructor
  · intro not_behind
    rcases Nat.lt_trichotomy c.val last.val with lower | same | higher
    · exact .inl lower
    · obtain rfl := CodePoint.ext same
      cases rest with
      | nil => exact .inr rfl
      | cons d rest => exact absurd (.inr ⟨rfl, List.nil_lt_cons d rest⟩) not_behind
    · exact absurd (.inl higher) not_behind
  · rintro (lower | same) (higher | ⟨rfl, rest_behind⟩)
    · exact Nat.lt_asymm lower higher
    · exact Nat.lt_irrefl _ lower
    · cases same
      exact Nat.lt_irrefl _ higher
    · cases same
      exact List.not_lt_nil _ rest_behind

/-! ## Ranges -/

/-- A text lies in a range of characters when it is the last one alone, or begins with one from the
first to the last but one, whatever follows. -/
theorem between_iff {first previous last : Char}
    (follows : (CodePoint.ofChar last).val = (CodePoint.ofChar previous).val + 1)
    (ordered : (CodePoint.ofChar first).val ≤ (CodePoint.ofChar last).val) {text : Text} :
    between [.ofChar first] [.ofChar last] text = true ↔
      text = [.ofChar last] ∨ ∃ c rest, text = c :: rest ∧ c.IsBetween first previous := by
  rw [between, Bool.and_eq_true, decide_eq_true_iff, decide_eq_true_iff]
  cases text with
  | nil =>
    refine iff_of_false (fun h => List.cons_ne_nil _ _ (List.le_nil.mp h.1)) ?_
    rintro (same | ⟨c, rest, same, -⟩)
    · cases same
    · cases same
  | cons c rest =>
    rw [singleton_le_cons_iff, cons_le_singleton_iff, follows, Nat.lt_succ_iff]
    constructor
    · rintro ⟨from_first, below | alone⟩
      · exact .inr ⟨c, rest, rfl, from_first, below⟩
      · exact .inl alone
    · rintro (alone | ⟨_, _, same, from_first, below⟩)
      · obtain ⟨rfl, -⟩ := List.cons.inj alone
        exact ⟨ordered, .inr alone⟩
      · cases same
        exact ⟨from_first, .inl below⟩

/-- On single code points a range is what lies between its ends. -/
theorem between_singleton_iff {first last : Char} {c : CodePoint} :
    between [.ofChar first] [.ofChar last] [c] = true ↔ c.IsBetween first last := by
  rw [between, Bool.and_eq_true, decide_eq_true_iff, decide_eq_true_iff, singleton_le_cons_iff,
    cons_le_singleton_iff, List.singleton_inj, CodePoint.ext_iff, ← Nat.le_iff_lt_or_eq,
    CodePoint.IsBetween]

theorem isIdentifierHead_iff {text : Text} :
    text.isIdentifierHead = true ↔ text = "z" ∨ text = "Z" ∨ text = "_" ∨
      ∃ c rest, text = c :: rest ∧ (c.IsBetween 'a' 'y' ∨ c.IsBetween 'A' 'Y') := by
  have lower : between "a" "z" text = true ↔
      text = "z" ∨ ∃ c rest, text = c :: rest ∧ c.IsBetween 'a' 'y' :=
    between_iff rfl (by decide)
  have upper : between "A" "Z" text = true ↔
      text = "Z" ∨ ∃ c rest, text = c :: rest ∧ c.IsBetween 'A' 'Y' :=
    between_iff rfl (by decide)
  rw [isIdentifierHead, Bool.or_eq_true, Bool.or_eq_true, lower, upper, beq_iff_eq]
  constructor
  · rintro (((last | ⟨c, rest, begins, small⟩) | last | ⟨c, rest, begins, capital⟩) | underscore)
    · exact .inl last
    · exact .inr (.inr (.inr ⟨c, rest, begins, .inl small⟩))
    · exact .inr (.inl last)
    · exact .inr (.inr (.inr ⟨c, rest, begins, .inr capital⟩))
    · exact .inr (.inr (.inl underscore))
  · rintro (last | last | underscore | ⟨c, rest, begins, small | capital⟩)
    · exact .inl (.inl (.inl last))
    · exact .inl (.inr (.inl last))
    · exact .inr underscore
    · exact .inl (.inl (.inr ⟨c, rest, begins, small⟩))
    · exact .inl (.inr (.inr ⟨c, rest, begins, capital⟩))

theorem isIdentifierPart_iff {text : Text} :
    text.isIdentifierPart = true ↔ text.isIdentifierHead = true ∨ text = "9" ∨
      ∃ c rest, text = c :: rest ∧ c.IsBetween '0' '8' := by
  have digit : between "0" "9" text = true ↔
      text = "9" ∨ ∃ c rest, text = c :: rest ∧ c.IsBetween '0' '8' :=
    between_iff rfl (by decide)
  rw [isIdentifierPart, Bool.or_eq_true, digit]

/-! ## Single code points -/

theorem isIdentifierHead_singleton_iff {c : CodePoint} :
    isIdentifierHead [c] = true ↔ c.IsLetter := by
  have lower : between "a" "z" [c] = true ↔ c.IsBetween 'a' 'z' := between_singleton_iff
  have upper : between "A" "Z" [c] = true ↔ c.IsBetween 'A' 'Z' := between_singleton_iff
  have underscore : [c] = ofString "_" ↔ c = .ofChar '_' := List.singleton_inj
  rw [isIdentifierHead, Bool.or_eq_true, Bool.or_eq_true, lower, upper, beq_iff_eq, underscore,
    or_comm (a := c.IsBetween 'a' 'z'), or_assoc, CodePoint.IsLetter]

theorem isIdentifierPart_singleton_iff {c : CodePoint} :
    isIdentifierPart [c] = true ↔ c.IsWord := by
  have digit : between "0" "9" [c] = true ↔ c.IsBetween '0' '9' := between_singleton_iff
  rw [isIdentifierPart, Bool.or_eq_true, isIdentifierHead_singleton_iff, digit, CodePoint.IsWord]

/-! ## Longer texts -/

/-- Nothing that goes on behind the last character of a range or behind the underscore passes. -/
theorem isIdentifierHead_of_last {last : Char} (is_last : last = 'z' ∨ last = 'Z' ∨ last = '_')
    {rest : Text} (goes_on : rest ≠ []) : isIdentifierHead (.ofChar last :: rest) = false := by
  have longer (ch : Char) : CodePoint.ofChar last :: rest ≠ [.ofChar ch] :=
    fun same => goes_on (List.cons.inj same).2
  refine Bool.eq_false_iff.mpr fun passes => ?_
  rcases isIdentifierHead_iff.mp passes with same | same | same | ⟨c, _, begins, lower⟩
  · exact longer 'z' same
  · exact longer 'Z' same
  · exact longer '_' same
  · obtain ⟨rfl, -⟩ := List.cons.inj begins
    rcases is_last with rfl | rfl | rfl <;> exact absurd lower (by decide)

theorem isIdentifierPart_of_last {rest : Text} (goes_on : rest ≠ []) :
    isIdentifierPart (.ofChar '9' :: rest) = false := by
  refine Bool.eq_false_iff.mpr fun passes => ?_
  rcases isIdentifierPart_iff.mp passes with head | same | ⟨c, _, begins, lower⟩
  · rcases isIdentifierHead_iff.mp head with same | same | same | ⟨c, _, begins, lower⟩
    · cases same
    · cases same
    · cases same
    · obtain ⟨rfl, -⟩ := List.cons.inj begins
      exact absurd lower (by decide)
  · exact goes_on (List.cons.inj same).2
  · obtain ⟨rfl, -⟩ := List.cons.inj begins
    exact absurd lower (by decide)

/-- Texts are compared code point by code point.  So a text passes the test for the first character
of an identifier when it is `z`, `Z` or `_`, or begins with another letter, whatever follows.  The
test for later characters also lets through `9` and what begins with another digit.  On single code
points the two are the classes `[A-Za-z_]` and `[A-Za-z0-9_]`.  Whatever goes on behind the last
character of a range is refused. -/
theorem character_tests_on_whole_texts :
    (∀ first second : Text, first < second ↔ (∃ c rest, second = first ++ c :: rest) ∨
      ∃ common c d x y, first = common ++ c :: x ∧ second = common ++ d :: y ∧ c.val < d.val) ∧
    (∀ text : Text, text.isIdentifierHead = true ↔ text = "z" ∨ text = "Z" ∨ text = "_" ∨
      ∃ c rest, text = c :: rest ∧ (c.IsBetween 'a' 'y' ∨ c.IsBetween 'A' 'Y')) ∧
    (∀ text : Text, text.isIdentifierPart = true ↔ text.isIdentifierHead = true ∨ text = "9" ∨
      ∃ c rest, text = c :: rest ∧ c.IsBetween '0' '8') ∧
    (∀ c, isIdentifierHead [c] = true ↔ c.IsLetter) ∧
    (∀ c, isIdentifierPart [c] = true ↔ c.IsWord) ∧
    ∀ rest : Text, rest ≠ [] →
      isIdentifierHead ("z" ++ rest) = false ∧ isIdentifierHead ("Z" ++ rest) = false ∧
      isIdentifierHead ("_" ++ rest) = false ∧ isIdentifierPart ("9" ++ rest) = false := by
  refine ⟨fun _ _ => lt_iff, fun _ => isIdentifierHead_iff, fun _ => isIdentifierPart_iff,
    fun _ => isIdentifierHead_singleton_iff, fun _ => isIdentifierPart_singleton_iff, ?_⟩
  intro rest goes_on
  exact ⟨isIdentifierHead_of_last (.inl rfl) goes_on,
    isIdentifierHead_of_last (.inr (.inl rfl)) goes_on,
    isIdentifierHead_of_last (.inr (.inr rfl)) goes_on, isIdentifierPart_of_last goes_on⟩

/-- The text `zé` begins with the last small letter and goes on, and `yé` begins with the one
before it. -/
theorem character_tests_on_whole_texts_last_letter :
    ofString "é" ≠ [] ∧ isIdentifierHead ("z" ++ ofString "é") = false ∧
      isIdentifierPart ("9" ++ ofString "é") = false ∧ isIdentifierHead "yé" = true := by
  obtain ⟨-, head_iff, -, -, -, last⟩ := character_tests_on_whole_texts
  have goes_on : ofString "é" ≠ [] := List.cons_ne_nil _ _
  obtain ⟨small, -, -, digit⟩ := last _ goes_on
  exact ⟨goes_on, small, digit,
    (head_iff "yé").mpr (.inr (.inr (.inr ⟨.ofChar 'y', "é", rfl, .inl (by decide)⟩)))⟩

end Text

end ScanFault
