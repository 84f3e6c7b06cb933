import ScanFault.Proofs.Fault.Deriving
import ScanFault.Proofs.Fault.Marking
import ScanFault.Proofs.Offset.Locality

/-!
# Where the mark is ambiguous

Two faults at different indices of one line may have the same rendering, when the line has marks of
its own.  The mark in front of the text between the two indices is then the same as the mark behind
it.  Since a mark does not overlap itself, a text that can be passed by the mark in this way is made
of marks (`Text.mark_append_comm_iff`).  So the renderings of expected identifiers and expected
tokens are ambiguous where marks follow one another in the line, and nowhere else.

The other kinds with an index are never ambiguous within a line.  The rendering of an expected
escape has the mark in the place of a character.  To pass the text between the indices, this
character would have to begin the mark and to end it.  An unexpected token shows only the text
before its index, and that is longer for the later index.  The main statement is
`Finding.ambiguous_exactly_at_marks`.
-/

namespace ScanFault

namespace Text

/-! ## Copies -/

/-- A text a number of times over. -/
def copies (text : Text) : Nat → Text
  | 0 => []
  | n + 1 => text ++ copies text n

theorem append_copies (text : Text) (n : Nat) : text ++ copies text n = copies text n ++ text := by
  induction n with
  | zero => simp [copies]
  | succ n ih => rw [copies, List.append_assoc, ih]

/-- A text that a pattern without a border can pass is made of copies of the pattern. -/
theorem exists_copies_of_append_comm {c : CodePoint} {tail between : Text} (once : c ∉ tail)
    (passes : c :: tail ++ between = between ++ c :: tail) :
    ∃ n, between = copies (c :: tail) n := by
  rcases List.append_eq_append_iff.mp passes with ⟨rest, front_eq, back_eq⟩ |
    ⟨rest, pattern_eq, pattern_eq'⟩
  · -- A copy is in front, and what is behind it is shorter and can be passed again.
    have shorter : rest.length < between.length := by
      rw [front_eq, List.length_append, List.length_cons]
      omega
    obtain ⟨n, rest_eq⟩ := exists_copies_of_append_comm once (front_eq.symm.trans back_eq)
    exact ⟨n + 1, by rw [front_eq, rest_eq, copies]⟩
  · have begins : c :: tail ++ [] = rest ++ between := by rw [List.append_nil, pattern_eq']
    rcases eq_nil_or_eq_nil_of_border once pattern_eq begins with rfl | rfl
    · exact ⟨0, rfl⟩
    · exact ⟨1, by rw [copies, copies, pattern_eq']; simp⟩
termination_by between.length

/-- The mark can pass a text exactly when the text is made of marks. -/
theorem mark_append_comm_iff {between : Text} :
    mark ++ between = between ++ mark ↔ ∃ n, between = copies mark n := by
  have once : CodePoint.ofChar '\x7b' ∉ ofString "here\x7d" := by decide
  constructor
  · intro passes
    exact exists_copies_of_append_comm once passes
  · intro h
    obtain ⟨n, rfl⟩ := h
    exact append_copies mark n

theorem mark_append_comm_iff_of_ne_nil {between : Text} (nonempty : between ≠ []) :
    mark ++ between = between ++ mark ↔ ∃ n, 1 ≤ n ∧ between = copies mark n := by
  rw [mark_append_comm_iff]
  refine exists_congr fun n => ?_
  cases n with
  | zero => exact iff_of_false nonempty fun h => Nat.not_succ_le_zero 0 h.1
  | succ n => exact (and_iff_right (Nat.succ_le_succ (Nat.zero_le n))).symm

/-- The mark in the place of a character cannot pass the text behind it and push the character out.
The character would begin the mark, and the one that is pushed out would end it. -/
theorem mark_append_ne (c : CodePoint) (between : Text) :
    mark ++ (between ++ [c]) ≠ c :: between ++ mark := by
  intro same
  obtain ⟨rfl, -⟩ := List.cons.inj same
  have ends : mark ++ between ++ [.ofChar '\x7b'] =
      CodePoint.ofChar '\x7b' :: between ++ ofString "\x7bhere" ++ [.ofChar '\x7d'] := by
    rw [List.append_assoc, List.append_assoc]
    exact same
  exact absurd (List.append_inj_right' ends rfl) (by decide)

/-! ## The text between two cuts -/

/-- The text that is behind the cut at the first index and in front of the cut at the second. -/
def IsBetween (line : Text) (first second : Int) (between : Text) : Prop :=
  ∃ before after, line.cutAt first = .ok (before, between ++ after) ∧
    line.cutAt second = .ok (before ++ between, after)

section OneLine

variable {line : Text} {index index' : Int}

/-- Of two marked lines from one line, one has the text between the two cuts behind the mark and the
other has it in front. -/
theorem markedAt_eq_iff {heading shown shown' : Text} (ahead : index < index')
    (made : markedAt heading line index = .ok shown)
    (made' : markedAt heading line index' = .ok shown') :
    ∃ between, line.IsBetween index index' between ∧
      (shown = shown' ↔ ∃ n, 1 ≤ n ∧ between = copies mark n) := by
  obtain ⟨encodable, before, rest, line_eq, width_eq, rfl⟩ := markedAt_eq_ok_iff.mp made
  obtain ⟨-, before', after, line_eq', width_eq', rfl⟩ := markedAt_eq_ok_iff.mp made'
  obtain ⟨between, rfl, rfl⟩ := exists_append_of_width_le (line_eq.trans line_eq'.symm)
    (show before.width ≤ before'.width by omega)
  have nonempty : between ≠ [] := by
    rintro rfl
    rw [List.append_nil] at width_eq'
    omega
  refine ⟨between, ⟨before, after, cutAt_eq_ok_iff.mpr ⟨encodable, line_eq, width_eq⟩,
    cutAt_eq_ok_iff.mpr ⟨encodable, line_eq', width_eq'⟩⟩, ?_⟩
  rw [← mark_append_comm_iff_of_ne_nil nonempty]
  simp only [List.append_assoc, List.append_cancel_left_eq]
  rw [← List.append_assoc, ← List.append_assoc, List.append_cancel_right_eq]

end OneLine

end Text

namespace Fault

/-! ## Two faults in one line -/

section OneLine

variable {line replace token token' : Text} {index index' : Int}

/-- The renderings of two expected escapes differ already where the marks pass the text between the
indices. -/
theorem shown_expectedEscape_ne {shown shown' : Text} (ahead : index < index')
    (wellFormed : (expectedEscape line index replace token).WellFormed)
    (wellFormed' : (expectedEscape line index' replace token').WellFormed)
    (rendered : (expectedEscape line index replace token).render = .ok shown)
    (rendered' : (expectedEscape line index' replace token').render = .ok shown') :
    shown ≠ shown' := by
  obtain ⟨encodable, before, c, rest, rfl, line_eq, rfl⟩ := wellFormed
  obtain ⟨-, before', d, after, rfl, line_eq', rfl⟩ := wellFormed'
  obtain ⟨between, rfl, rest_eq⟩ := Text.exists_append_of_width_le (line_eq.symm.trans line_eq')
    (show before.width ≤ before'.width by omega)
  cases between with
  | nil =>
    rw [List.append_nil] at ahead
    omega
  | cons e between =>
    obtain ⟨rfl, rfl⟩ := List.cons.inj rest_eq
    have first := render_expectedEscape (line_eq ▸ encodable) replace
    have second := render_expectedEscape (line_eq' ▸ encodable) replace
    rw [← line_eq, rendered, Except.ok.injEq] at first
    rw [← line_eq', rendered', Except.ok.injEq] at second
    rw [first, second]
    intro same
    simp only [List.append_assoc, List.append_cancel_left_eq, List.singleton_append] at same
    -- The characters that were left out are the same, and the mark stands for either.
    obtain ⟨rfl, same⟩ := List.cons.inj same
    have passes : mark ++ (between ++ [c]) ++ after = c :: between ++ mark ++ after := by
      rw [List.append_assoc, List.append_assoc between, List.append_assoc]
      exact List.append_cancel_left (List.append_cancel_left same)
    exact Text.mark_append_ne c between (List.append_cancel_right passes)

end OneLine

end Fault

namespace Finding

section OneLine

variable {line shown : Text} {index : Int}

theorem markedAt_of_display_expectedIdentifier
    (displayed : (expectedIdentifier line index).display.result = .ok shown) :
    Text.markedAt "Expected identifier " line index = .ok shown := by
  obtain ⟨fault, made, rendered⟩ := display_result_eq_ok_iff.mp displayed
  obtain ⟨-, rfl⟩ := Fault.accept_result_eq_ok_iff.mp made
  rw [← Fault.render_expectedIdentifier_eq_markedAt]
  exact rendered

theorem markedAt_of_display_expectedToken {tokens : Text}
    (displayed : (expectedToken line index tokens).display.result = .ok shown) :
    Text.markedAt ("Expected " ++ tokens ++ " ") line index = .ok shown := by
  obtain ⟨fault, made, rendered⟩ := display_result_eq_ok_iff.mp displayed
  obtain ⟨-, rfl⟩ := Fault.accept_result_eq_ok_iff.mp made
  rw [← Fault.render_expectedToken_eq_markedAt]
  exact rendered

/-- A fault that a finding without its token has is well-formed, and it has a rendering. -/
theorem OmitsToken.exists_of_made {finding : Finding} {given : Text → Fault} {fault : Fault}
    (omits : OmitsToken line index finding given) (made : finding.toFault.result = .ok fault) :
    ∃ token shown, fault = given token ∧ fault.WellFormed ∧ fault.render = .ok shown := by
  have wellFormed := wellFormed_of_toFault made
  obtain ⟨c, -, rfl⟩ := omits.toFault_eq_ok_iff.mp made
  obtain ⟨shown, rendered⟩ := Fault.render_of_not_misplaced wellFormed (by cases omits <;> exact id)
  exact ⟨[c], shown, rfl, wellFormed, rendered⟩

end OneLine

/-- Two renderings of expected identifiers in one line are the same exactly when the text between
the two indices is made of marks, and so are two renderings of expected tokens with the same tokens.
Two renderings of expected escapes with the same replacement always differ, and so do two renderings
of unexpected tokens, whatever marks the line has. -/
theorem ambiguous_exactly_at_marks (line : Text) :
    (∀ {index index' : Int} {shown shown' : Text}, index < index' →
      (expectedIdentifier line index).display.result = .ok shown →
      (expectedIdentifier line index').display.result = .ok shown' →
      ∃ between, line.IsBetween index index' between ∧
        (shown = shown' ↔ ∃ n, 1 ≤ n ∧ between = Text.copies mark n)) ∧
    (∀ {tokens : Text} {index index' : Int} {shown shown' : Text}, index < index' →
      (expectedToken line index tokens).display.result = .ok shown →
      (expectedToken line index' tokens).display.result = .ok shown' →
      ∃ between, line.IsBetween index index' between ∧
        (shown = shown' ↔ ∃ n, 1 ≤ n ∧ between = Text.copies mark n)) ∧
    (∀ {replace : Text} {index index' : Int} {fault fault' : Fault}, index ≠ index' →
      (expectedEscape line index replace).toFault.result = .ok fault →
      (expectedEscape line index' replace).toFault.result = .ok fault' →
      ∃ shown shown', fault.render = .ok shown ∧ fault'.render = .ok shown' ∧ shown ≠ shown') ∧
    ∀ {index index' : Int} {fault fault' : Fault}, index ≠ index' →
      (unexpectedToken line index).toFault.result = .ok fault →
      (unexpectedToken line index').toFault.result = .ok fault' →
      ∃ shown shown', fault.render = .ok shown ∧ fault'.render = .ok shown' ∧ shown ≠ shown' := by
  refine ⟨?_, ?_, ?_, ?_⟩
  · intro index index' shown shown' ahead displayed displayed'
    exact Text.markedAt_eq_iff ahead (markedAt_of_display_expectedIdentifier displayed)
      (markedAt_of_display_expectedIdentifier displayed')
  · intro tokens index index' shown shown' ahead displayed displayed'
    exact Text.markedAt_eq_iff ahead (markedAt_of_display_expectedToken displayed)
      (markedAt_of_display_expectedToken displayed')
  · intro replace index index' fault fault' apart made made'
    obtain ⟨token, shown, rfl, wellFormed, rendered⟩ :=
      (OmitsToken.expectedEscape replace).exists_of_made made
    obtain ⟨token', shown', rfl, wellFormed', rendered'⟩ :=
      (OmitsToken.expectedEscape replace).exists_of_made made'
    refine ⟨shown, shown', rendered, rendered', ?_⟩
    rcases Int.lt_or_gt_of_ne apart with ahead | behind
    · exact Fault.shown_expectedEscape_ne ahead wellFormed wellFormed' rendered rendered'
    · exact (Fault.shown_expectedEscape_ne behind wellFormed' wellFormed rendered' rendered).symm
  · intro index index' fault fault' apart made made'
    obtain ⟨token, shown, rfl, wellFormed, rendered⟩ :=
      OmitsToken.unexpectedToken.exists_of_made made
    obtain ⟨token', shown', rfl, wellFormed', rendered'⟩ :=
      OmitsToken.unexpectedToken.exists_of_made made'
    refine ⟨shown, shown', rendered, rendered', ?_⟩
    obtain ⟨before, after, cut⟩ := Fault.cutAt_of_unexpectedToken wellFormed
    obtain ⟨before', after', cut'⟩ := Fault.cutAt_of_unexpectedToken wellFormed'
    intro same
    exact apart ((Fault.shown_unexpectedToken_iff wellFormed wellFormed' rendered rendered' cut
      cut').mp same).1

/-- A line with two marks and a letter.  An expected identifier in front of both looks like one
behind both.  An expected token inside the first mark looks like none in front of it.  At both marks
an opening brace is unexpected and should be escaped, and the renderings differ. -/
theorem ambiguous_exactly_at_marks_twice :
    (expectedIdentifier "\x7bhere\x7d\x7bhere\x7da" 0).display.result =
        .ok "Expected identifier \x7bhere\x7d\x7bhere\x7d\x7bhere\x7da" ∧
      (expectedIdentifier "\x7bhere\x7d\x7bhere\x7da" 12).display.result =
        .ok "Expected identifier \x7bhere\x7d\x7bhere\x7d\x7bhere\x7da" ∧
      (∃ between, Text.IsBetween "\x7bhere\x7d\x7bhere\x7da" 0 12 between ∧
        ∃ n, 1 ≤ n ∧ between = Text.copies mark n) ∧
      (∃ between, Text.IsBetween "\x7bhere\x7d\x7bhere\x7da" 0 3 between ∧
        ¬ ∃ n, 1 ≤ n ∧ between = Text.copies mark n) ∧
      (∃ shown shown',
        (Fault.expectedEscape "\x7bhere\x7d\x7bhere\x7da" 0 "e" "\x7b").render = .ok shown ∧
        (Fault.expectedEscape "\x7bhere\x7d\x7bhere\x7da" 6 "e" "\x7b").render = .ok shown' ∧
        shown ≠ shown') ∧
      ∃ shown shown',
        (Fault.unexpectedToken "\x7bhere\x7d\x7bhere\x7da" 0 "\x7b").render = .ok shown ∧
        (Fault.unexpectedToken "\x7bhere\x7d\x7bhere\x7da" 6 "\x7b").render = .ok shown' ∧
        shown ≠ shown' := by
  obtain ⟨identifiers, tokens, escapes, unexpected⟩ :=
    ambiguous_exactly_at_marks "\x7bhere\x7d\x7bhere\x7da"
  have apart : (0 : Int) ≠ 6 := by decide
  refine ⟨rfl, rfl, ?_, ?_, escapes apart rfl rfl, unexpected apart rfl rfl⟩
  · have ahead : (0 : Int) < 12 := by decide
    obtain ⟨between, cuts, same_iff⟩ := identifiers ahead rfl rfl
    exact ⟨between, cuts, same_iff.mp rfl⟩
  · have ahead : (0 : Int) < 3 := by decide
    have in_front : (expectedToken "\x7bhere\x7d\x7bhere\x7da" 0 ";").display.result =
        .ok "Expected ; \x7bhere\x7d\x7bhere\x7d\x7bhere\x7da" := rfl
    have inside : (expectedToken "\x7bhere\x7d\x7bhere\x7da" 3 ";").display.result =
        .ok "Expected ; \x7bhe\x7bhere\x7dre\x7d\x7bhere\x7da" := rfl
    obtain ⟨between, cuts, same_iff⟩ := tokens ahead in_front inside
    exact ⟨between, cuts, fun copies => absurd (same_iff.mpr copies) (by decide)⟩

end Finding

end ScanFault
