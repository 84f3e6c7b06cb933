import Mathlib.Computability.Language
import ScanFault.Fault.WellFormed
import ScanFault.Proofs.Identifier.Comparing

/-!
# The language of identifiers

`Text.identifiers` is the language `[A-Za-z_][A-Za-z0-9_]*`, built from two classes of code points
by concatenation and Kleene star.  `Text.isIdentifier` takes a text apart from the left, and it
accepts exactly the texts of the language (`Text.isIdentifier_iff_mem_identifiers`).

Both can be said with the classes alone (`Text.isIdentifier_cons_iff`,
`Text.cons_mem_identifiers_iff`), and then it is seen what happens at the end of a text.  An
identifier goes on with any code points of the second class and with nothing else.  The main
statement is `Text.isIdentifier_exactly_in_language`.  It also says which invalid identifiers are
found by a scanner that brings no rule of its own.
-/

namespace ScanFault

open scoped Computability

namespace Text

/-! ## The language -/

/-- The texts of one code point of a class. -/
def ofClass (members : CodePoint → Prop) : Language CodePoint :=
  {text | ∃ c, text = [c] ∧ members c}

/-- The language `[A-Za-z_][A-Za-z0-9_]*`. -/
def identifiers : Language CodePoint :=
  ofClass CodePoint.IsLetter * (ofClass CodePoint.IsWord)∗

/-- The star of a class holds the texts of which every code point is in the class. -/
theorem mem_kstar_ofClass_iff {members : CodePoint → Prop} {text : Text} :
    text ∈ (ofClass members)∗ ↔ ∀ c ∈ text, members c := by
  rw [Language.mem_kstar]
  constructor
  · rintro ⟨parts, rfl, in_class⟩ c found
    obtain ⟨part, part_mem, c_mem⟩ := List.mem_flatten.mp found
    obtain ⟨d, rfl, holds⟩ := in_class part part_mem
    rwa [List.mem_singleton.mp c_mem]
  · intro holds
    refine ⟨text.map fun c => [c], ?_, ?_⟩
    · rw [← List.flatMap_def, List.flatMap_singleton']
    · intro part part_mem
      obtain ⟨c, found, rfl⟩ := List.mem_map.mp part_mem
      exact ⟨c, rfl, holds c found⟩

theorem nil_not_mem_identifiers : [] ∉ identifiers := by
  rintro ⟨first, ⟨c, rfl, -⟩, rest, -, same⟩
  cases same

theorem cons_mem_identifiers_iff {c : CodePoint} {rest : Text} :
    c :: rest ∈ identifiers ↔ c.IsLetter ∧ ∀ d ∈ rest, d.IsWord := by
  rw [identifiers, Language.mem_mul]
  constructor
  · rintro ⟨first, ⟨d, rfl, letter⟩, more, words, same⟩
    obtain ⟨rfl, rfl⟩ := List.cons.inj same
    exact ⟨letter, mem_kstar_ofClass_iff.mp words⟩
  · rintro ⟨letter, words⟩
    exact ⟨[c], ⟨c, rfl, letter⟩, rest, mem_kstar_ofClass_iff.mpr words, rfl⟩

/-! ## The test -/

theorem isIdentifier_cons_iff {c : CodePoint} {rest : Text} :
    isIdentifier (c :: rest) = true ↔ c.IsLetter ∧ ∀ d ∈ rest, d.IsWord := by
  rw [isIdentifier, Bool.and_eq_true, isIdentifierHead_singleton_iff, List.all_eq_true]
  simp only [isIdentifierPart_singleton_iff]

theorem isIdentifier_iff_mem_identifiers {text : Text} :
    text.isIdentifier = true ↔ text ∈ identifiers := by
  cases text with
  | nil => exact iff_of_false Bool.false_ne_true nil_not_mem_identifiers
  | cons c rest => rw [isIdentifier_cons_iff, cons_mem_identifiers_iff]

/-- An identifier goes on with code points of the second class. -/
theorem isIdentifier_append_iff {text more : Text} (nonempty : text ≠ []) :
    (text ++ more).isIdentifier = true ↔ text.isIdentifier = true ∧ ∀ c ∈ more, c.IsWord := by
  obtain ⟨c, rest, rfl⟩ := List.exists_cons_of_ne_nil nonempty
  rw [List.cons_append, isIdentifier_cons_iff, isIdentifier_cons_iff, List.forall_mem_append,
    and_assoc]

/-- The standard rule rejects what is outside the language. -/
theorem standard_rejects_iff {text : Text} :
    (Predicate.standard.judge text).truth = .ok false ↔ text ∉ identifiers := by
  have truth_eq : (Predicate.standard.judge text).truth = .ok text.isIdentifier := rfl
  rw [truth_eq, Except.ok.injEq, ← isIdentifier_iff_mem_identifiers, Bool.not_eq_true]

/-- A text is an identifier exactly when it is in the language `[A-Za-z_][A-Za-z0-9_]*`.  So a text
that is not empty goes on as an identifier exactly when it is one and only letters, digits and
underscores follow, and every beginning of an identifier but the empty one is an identifier.  An
invalid identifier is found by the standard rule exactly when the word is in the line and outside
the language. -/
theorem isIdentifier_exactly_in_language :
    (∀ text : Text, text.isIdentifier = true ↔ text ∈ identifiers) ∧
    (∀ text more : Text, text ≠ [] →
      ((text ++ more).isIdentifier = true ↔
        text.isIdentifier = true ∧ ∀ c ∈ more, c.IsWord)) ∧
    (∀ text whole : Text, text <+: whole → text ≠ [] → whole.isIdentifier = true →
      text.isIdentifier = true) ∧
    ∀ line ident : Text,
      (∃ fault, (Finding.invalidIdentifier line ident .standard).toFault.result = .ok fault) ↔
        (∃ before after, line = before ++ ident ++ after) ∧ ident ∉ identifiers := by
  refine ⟨fun _ => isIdentifier_iff_mem_identifiers, fun _ _ => isIdentifier_append_iff, ?_, ?_⟩
  · rintro text _ ⟨more, rfl⟩ nonempty identifier
    exact ((isIdentifier_append_iff nonempty).mp identifier).1
  · intro line ident
    rw [← standard_rejects_iff]
    constructor
    · rintro ⟨fault, made⟩
      exact (Fault.accept_result_eq_ok_iff.mp made).1
    · intro wellFormed
      exact ⟨_, Fault.accept_result_eq_ok_iff.mpr ⟨wellFormed, rfl⟩⟩

/-- The word `x_2` is an identifier and begins with another, and a letter outside ASCII ends it.
The word `2x` begins with a digit, and a scanner may find it. -/
theorem isIdentifier_exactly_in_language_accent :
    ofString "x_2" ∈ identifiers ∧ ofString "x_2" ≠ [] ∧
      (ofString "x_2" ++ ofString "é").isIdentifier = false ∧
      ofString "x" <+: ofString "x_2" ∧ isIdentifier "x" = true ∧ ofString "2x" ∉ identifiers ∧
      ∃ fault, (Finding.invalidIdentifier "let 2x = 5" "2x" .standard).toFault.result =
        .ok fault := by
  obtain ⟨in_language, goes_on, beginning, found⟩ := isIdentifier_exactly_in_language
  have identifier : isIdentifier "x_2" = true := by decide
  have nonempty : ofString "x_2" ≠ [] := List.cons_ne_nil _ _
  have begins : ofString "x" <+: ofString "x_2" := ⟨"_2", rfl⟩
  have outside : ofString "2x" ∉ identifiers := mt (in_language _).mpr (by decide)
  refine ⟨(in_language _).mp identifier, nonempty, ?_, begins,
    beginning _ _ begins (List.cons_ne_nil _ _) identifier, outside,
    (found _ _).mpr ⟨⟨"let ", " = 5", rfl⟩, outside⟩⟩
  refine Bool.eq_false_iff.mpr fun longer => ?_
  obtain ⟨-, words⟩ := (goes_on _ _ nonempty).mp longer
  exact absurd (words (.ofChar 'é') (List.mem_singleton.mpr rfl)) (by decide)

end Text

end ScanFault
