import ScanFault.Proofs.Fault.Rendering

/-!
# What the mark tells

A rendering shows a line with the mark at the index of the fault.  The line may hold parts of the
mark next to the index, so the mark that was put in may not be the only thing that looks like one.
It still is the first: the brace that it begins with occurs nowhere else in it, so no mark begins
before it without lying wholly in the line (`Text.eq_nil_of_overlap`).  When the text before the
index has no mark of its own, the text before and the text behind can both be read off
(`Text.append_mark_append_inj`), and the index is the width of the text before.

The main statement is `Fault.renderings_determine_places`.  An expected escape also leaves out the
character at the index, and this character stands in front of the line.  An unexpected token leaves
out what is behind the index, and nothing is behind its mark, so its line may hold any marks.
-/

namespace ScanFault

namespace Text

/-! ## The first mark -/

section Pattern

variable {c : CodePoint} {tail : Text}

/-- A pattern that begins with a code point that is nowhere else in it has no border: no text both
ends it and begins it again, but the empty one and the pattern. -/
theorem eq_nil_or_eq_nil_of_border (once : c ∉ tail) {front back after after' : Text}
    (ends : c :: tail = front ++ back) (begins : c :: tail ++ after = back ++ after') :
    front = [] ∨ back = [] := by
  cases front with
  | nil => exact .inl rfl
  | cons d front =>
    cases back with
    | nil => exact .inr rfl
    | cons e back =>
      -- The border begins inside the pattern, with the code point that begins the pattern.
      obtain ⟨rfl, -⟩ := List.cons.inj begins
      rw [(List.cons.inj ends).2] at once
      exact absurd (List.mem_append_right _ (List.mem_cons_self ..)) once

/-- Such a pattern does not overlap itself.  So where one occurrence begins before another, it lies
wholly in front of it. -/
theorem eq_nil_of_overlap {between after after' : Text} (once : c ∉ tail)
    (clear : between.contains (c :: tail) = false)
    (h : c :: tail ++ after = between ++ (c :: tail ++ after')) : between = [] := by
  have not_in_front (rest : Text) : between ≠ c :: tail ++ rest := by
    intro between_eq
    have found : between.contains (c :: tail) = true := contains_iff.mpr ⟨[], rest, between_eq⟩
    rw [clear] at found
    cases found
  rcases List.append_eq_append_iff.mp h with ⟨rest, between_eq, -⟩ | ⟨rest, pattern_eq, rest_eq⟩
  · exact absurd between_eq (not_in_front rest)
  · rcases eq_nil_or_eq_nil_of_border once pattern_eq rest_eq with between_eq | rfl
    · exact between_eq
    · rw [List.append_nil] at pattern_eq
      exact absurd (pattern_eq.symm.trans (List.append_nil _).symm) (not_in_front [])

end Pattern

theorem contains_middle_eq_false {before middle after part : Text}
    (clear : (before ++ middle ++ after).contains part = false) : middle.contains part = false := by
  cases found : middle.contains part with
  | false => rfl
  | true =>
    obtain ⟨first, last, rfl⟩ := contains_iff.mp found
    have occurs : (before ++ (first ++ part ++ last) ++ after).contains part = true :=
      contains_iff.mpr ⟨before ++ first, last ++ after, by simp only [List.append_assoc]⟩
    rw [clear] at occurs
    cases occurs

/-- The text before a mark and the text behind it can be read off, when the text before has no mark
of its own. -/
theorem append_mark_append_inj {before after before' after' : Text}
    (clear : before.contains mark = false) (clear' : before'.contains mark = false)
    (h : before ++ (mark ++ after) = before' ++ (mark ++ after')) :
    before = before' ∧ after = after' := by
  have once : CodePoint.ofChar '\x7b' ∉ ofString "here\x7d" := by decide
  rcases List.append_eq_append_iff.mp h with ⟨between, rfl, marks⟩ | ⟨between, rfl, marks⟩
  · rw [← List.append_nil (before ++ between)] at clear'
    obtain rfl := eq_nil_of_overlap once (contains_middle_eq_false clear') marks
    exact ⟨(List.append_nil before).symm, List.append_cancel_left marks⟩
  · rw [← List.append_nil (before' ++ between)] at clear
    obtain rfl := eq_nil_of_overlap once (contains_middle_eq_false clear) marks
    exact ⟨List.append_nil before', (List.append_cancel_left marks).symm⟩

theorem contains_before_eq_false {before after part : Text}
    (clear : (before ++ after).contains part = false) : before.contains part = false := by
  rw [← List.nil_append before] at clear
  exact contains_middle_eq_false clear

/-! ## Marked lines -/

/-- A line behind a heading, with the mark at an index. -/
def markedAt (heading line : Text) (index : Int) : Except Violation Text :=
  (line.cutAt index).map fun parts => heading ++ (parts.1 ++ (mark ++ parts.2))

theorem markedAt_eq_ok_iff {heading line shown : Text} {index : Int} :
    markedAt heading line index = .ok shown ↔ line.Encodable ∧
      ∃ before after, before ++ after = line ∧ (before.width : Int) = index ∧
        heading ++ (before ++ (mark ++ after)) = shown := by
  rw [markedAt]
  constructor
  · intro made
    cases cut : line.cutAt index with
    | error broken =>
      rw [cut] at made
      cases made
    | ok parts =>
      obtain ⟨encodable, line_eq, width_eq⟩ := cutAt_eq_ok_iff.mp cut
      rw [cut] at made
      exact ⟨encodable, parts.1, parts.2, line_eq, width_eq, Except.ok.inj made⟩
  · rintro ⟨encodable, before, after, rfl, rfl, rfl⟩
    rw [cutAt_append encodable]
    rfl

/-- A marked line without other marks determines the line and the index. -/
theorem markedAt_inj {heading line line' shown shown' : Text} {index index' : Int}
    (made : markedAt heading line index = .ok shown)
    (made' : markedAt heading line' index' = .ok shown')
    (clear : line.contains mark = false) (clear' : line'.contains mark = false) :
    shown = shown' ↔ line = line' ∧ index = index' := by
  constructor
  · intro same
    obtain ⟨-, before, after, rfl, rfl, rfl⟩ := markedAt_eq_ok_iff.mp made
    obtain ⟨-, before', after', rfl, rfl, rfl⟩ := markedAt_eq_ok_iff.mp made'
    obtain ⟨rfl, rfl⟩ := append_mark_append_inj (contains_before_eq_false clear)
      (contains_before_eq_false clear') (List.append_cancel_left same)
    exact ⟨rfl, rfl⟩
  · rintro ⟨rfl, rfl⟩
    exact Except.ok.inj (made.symm.trans made')

end Text

namespace Fault

/-! ## Faults with an index -/

section Index

variable {line line' tokens tokens' replace replace' token token' : Text} {index index' : Int}

theorem expectedIdentifier_beq_iff :
    (expectedIdentifier line index == expectedIdentifier line' index') = true ↔
      line = line' ∧ index = index' := by
  rw [beq_iff_key_eq]
  simp [key, kind, fields]

theorem expectedToken_beq_iff :
    (expectedToken line index tokens == expectedToken line' index' tokens') = true ↔
      line = line' ∧ index = index' ∧ tokens = tokens' := by
  rw [beq_iff_key_eq]
  simp [key, kind, fields]

theorem expectedEscape_beq_iff :
    (expectedEscape line index replace token == expectedEscape line' index' replace' token') =
        true ↔
      line = line' ∧ index = index' ∧ replace = replace' ∧ token = token' := by
  rw [beq_iff_key_eq]
  simp [key, kind, fields]

theorem render_expectedIdentifier_eq_markedAt (line : Text) (index : Int) :
    (expectedIdentifier line index).render = Text.markedAt "Expected identifier " line index := by
  rw [render, Text.markedAt]
  cases line.cutAt index with
  | error broken => rfl
  | ok parts => exact congrArg Except.ok (by simp only [List.append_assoc])

theorem render_expectedToken_eq_markedAt (line : Text) (index : Int) (tokens : Text) :
    (expectedToken line index tokens).render =
      Text.markedAt ("Expected " ++ tokens ++ " ") line index := by
  rw [render, Text.markedAt]
  cases line.cutAt index with
  | error broken => rfl
  | ok parts => exact congrArg Except.ok (by simp only [List.append_assoc])

theorem shown_expectedEscape_iff {shown shown' : Text}
    (wellFormed : (expectedEscape line index replace token).WellFormed)
    (wellFormed' : (expectedEscape line' index' replace token').WellFormed)
    (rendered : (expectedEscape line index replace token).render = .ok shown)
    (rendered' : (expectedEscape line' index' replace token').render = .ok shown')
    (clear : line.contains mark = false) (clear' : line'.contains mark = false) :
    shown = shown' ↔ line = line' ∧ index = index' ∧ token = token' := by
  constructor
  · intro same
    obtain ⟨encodable, before, c, after, rfl, rfl, rfl⟩ := wellFormed
    obtain ⟨encodable', before', c', after', rfl, rfl, rfl⟩ := wellFormed'
    rw [render_expectedEscape encodable, Except.ok.injEq] at rendered
    rw [render_expectedEscape encodable', Except.ok.injEq] at rendered'
    rw [← rendered, ← rendered'] at same
    simp only [List.append_assoc, List.append_cancel_left_eq, List.singleton_append] at same
    -- The character that each line lost stands in front of `" in "`.
    obtain ⟨rfl, lines_eq⟩ := List.cons.inj same
    obtain ⟨rfl, rfl⟩ := Text.append_mark_append_inj (Text.contains_before_eq_false clear)
      (Text.contains_before_eq_false clear') (List.append_cancel_left lines_eq)
    exact ⟨rfl, rfl, rfl⟩
  · rintro ⟨rfl, rfl, rfl⟩
    exact Except.ok.inj (rendered.symm.trans rendered')

theorem cutAt_of_unexpectedToken (wellFormed : (unexpectedToken line index token).WellFormed) :
    ∃ before after, line.cutAt index = .ok (before, after) := by
  obtain ⟨encodable, before, c, after, -, rfl, rfl⟩ := wellFormed
  exact ⟨before, c :: after, Text.cutAt_append encodable⟩

/-- The rendering of an unexpected token shows the token and the text before the index. -/
theorem shown_unexpectedToken_iff {before before' after after' shown shown' : Text}
    (wellFormed : (unexpectedToken line index token).WellFormed)
    (wellFormed' : (unexpectedToken line' index' token').WellFormed)
    (rendered : (unexpectedToken line index token).render = .ok shown)
    (rendered' : (unexpectedToken line' index' token').render = .ok shown')
    (cut : line.cutAt index = .ok (before, after))
    (cut' : line'.cutAt index' = .ok (before', after')) :
    shown = shown' ↔ index = index' ∧ token = token' ∧ before = before' := by
  obtain ⟨encodable, rfl, rfl⟩ := Text.cutAt_eq_ok_iff.mp cut
  obtain ⟨encodable', rfl, rfl⟩ := Text.cutAt_eq_ok_iff.mp cut'
  rw [render_unexpectedToken encodable, Except.ok.injEq] at rendered
  rw [render_unexpectedToken encodable', Except.ok.injEq] at rendered'
  rw [← rendered, ← rendered']
  constructor
  · intro same
    obtain ⟨-, -, c, -, rfl, -⟩ := wellFormed
    obtain ⟨-, -, c', -, rfl, -⟩ := wellFormed'
    simp only [List.append_assoc, List.append_cancel_left_eq, List.singleton_append] at same
    obtain ⟨rfl, parts_eq⟩ := List.cons.inj same
    obtain rfl := List.append_cancel_right (List.append_cancel_left parts_eq)
    exact ⟨rfl, rfl, rfl⟩
  · rintro ⟨-, rfl, rfl⟩
    rfl

end Index

/-! ## Renderings and places -/

/-- A rendering tells what the mark was put into.  For an expected identifier, an expected token and
an expected escape it tells the whole fault, as long as the line has no mark of its own and the
tokens or the replacement are known.  For an unexpected token it tells the index, the token and the
text before the index, and nothing of the text behind. -/
theorem renderings_determine_places :
    (∀ {line line' shown shown' : Text} {index index' : Int},
      line.contains mark = false → line'.contains mark = false →
      (expectedIdentifier line index).render = .ok shown →
      (expectedIdentifier line' index').render = .ok shown' →
      (shown = shown' ↔
        (expectedIdentifier line index == expectedIdentifier line' index') = true)) ∧
    (∀ {line line' tokens shown shown' : Text} {index index' : Int},
      line.contains mark = false → line'.contains mark = false →
      (expectedToken line index tokens).render = .ok shown →
      (expectedToken line' index' tokens).render = .ok shown' →
      (shown = shown' ↔
        (expectedToken line index tokens == expectedToken line' index' tokens) = true)) ∧
    (∀ {line line' replace token token' : Text} {index index' : Int},
      line.contains mark = false → line'.contains mark = false →
      (expectedEscape line index replace token).WellFormed →
      (expectedEscape line' index' replace token').WellFormed →
      ∃ shown shown', (expectedEscape line index replace token).render = .ok shown ∧
        (expectedEscape line' index' replace token').render = .ok shown' ∧
        (shown = shown' ↔
          (expectedEscape line index replace token == expectedEscape line' index' replace token') =
            true)) ∧
    ∀ {line line' token token' : Text} {index index' : Int},
      (unexpectedToken line index token).WellFormed →
      (unexpectedToken line' index' token').WellFormed →
      ∃ shown shown' before after before' after',
        (unexpectedToken line index token).render = .ok shown ∧
        (unexpectedToken line' index' token').render = .ok shown' ∧
        line.cutAt index = .ok (before, after) ∧ line'.cutAt index' = .ok (before', after') ∧
        (shown = shown' ↔ index = index' ∧ token = token' ∧ before = before') := by
  refine ⟨?_, ?_, ?_, ?_⟩
  · intro line line' shown shown' index index' clear clear' rendered rendered'
    rw [render_expectedIdentifier_eq_markedAt] at rendered rendered'
    rw [expectedIdentifier_beq_iff]
    exact Text.markedAt_inj rendered rendered' clear clear'
  · intro line line' tokens shown shown' index index' clear clear' rendered rendered'
    rw [render_expectedToken_eq_markedAt] at rendered rendered'
    rw [expectedToken_beq_iff, Text.markedAt_inj rendered rendered' clear clear']
    simp only [and_true]
  · intro line line' replace token token' index index' clear clear' wellFormed wellFormed'
    obtain ⟨shown, rendered⟩ := render_of_not_misplaced wellFormed id
    obtain ⟨shown', rendered'⟩ := render_of_not_misplaced wellFormed' id
    refine ⟨shown, shown', rendered, rendered', ?_⟩
    rw [expectedEscape_beq_iff,
      shown_expectedEscape_iff wellFormed wellFormed' rendered rendered' clear clear']
    simp only [true_and]
  · intro line line' token token' index index' wellFormed wellFormed'
    obtain ⟨shown, rendered⟩ := render_of_not_misplaced wellFormed id
    obtain ⟨shown', rendered'⟩ := render_of_not_misplaced wellFormed' id
    obtain ⟨before, after, cut⟩ := cutAt_of_unexpectedToken wellFormed
    obtain ⟨before', after', cut'⟩ := cutAt_of_unexpectedToken wellFormed'
    exact ⟨shown, shown', before, after, before', after', rendered, rendered', cut, cut',
      shown_unexpectedToken_iff wellFormed wellFormed' rendered rendered' cut cut'⟩

/-- A line that is the mark without its last brace, marked inside and in front, and two lines with
the same beginning.  The renderings tell the first two apart, and not the last two. -/
theorem renderings_determine_places_partial_mark :
    Text.contains "\x7bhere" mark = false ∧
    (expectedIdentifier "\x7bhere" 4).render = .ok "Expected identifier \x7bher\x7bhere\x7de" ∧
    (expectedIdentifier "\x7bhere" 0).render = .ok "Expected identifier \x7bhere\x7d\x7bhere" ∧
    (Text.ofString "Expected identifier \x7bher\x7bhere\x7de" =
        "Expected identifier \x7bhere\x7d\x7bhere" ↔
      (expectedIdentifier "\x7bhere" 4 == expectedIdentifier "\x7bhere" 0) = true) ∧
    (Text.ofString "Expected ; \x7bher\x7bhere\x7de" = "Expected ; \x7bhere\x7d\x7bhere" ↔
      (expectedToken "\x7bhere" 4 ";" == expectedToken "\x7bhere" 0 ";") = true) ∧
    (∃ shown shown', (expectedEscape "\x7bhere" 4 "e" [.ofChar 'e']).render = .ok shown ∧
      (expectedEscape "\x7bhere" 2 "e" [.ofChar 'e']).render = .ok shown' ∧ shown ≠ shown') ∧
    ∃ shown, (unexpectedToken "a#b" 1 [.ofChar '#']).render = .ok shown ∧
      (unexpectedToken "a#c" 1 [.ofChar '#']).render = .ok shown := by
  obtain ⟨identifiers, tokens, escapes, unexpected⟩ := renderings_determine_places
  refine ⟨by decide, rfl, rfl, identifiers (by decide) (by decide) rfl rfl,
    tokens (by decide) (by decide) rfl rfl, ?_, ?_⟩
  · have first : (expectedEscape "\x7bhere" 4 "e" [.ofChar 'e']).WellFormed :=
      ⟨by decide, "\x7bher", _, [], rfl, rfl, rfl⟩
    have second : (expectedEscape "\x7bhere" 2 "e" [.ofChar 'e']).WellFormed :=
      ⟨by decide, "\x7bh", _, "re", rfl, rfl, rfl⟩
    obtain ⟨shown, shown', rendered, rendered', same_iff⟩ :=
      escapes (by decide) (by decide) first second
    exact ⟨shown, shown', rendered, rendered', fun same => absurd (same_iff.mp same) (by decide)⟩
  · have first : (unexpectedToken "a#b" 1 [.ofChar '#']).WellFormed :=
      ⟨by decide, "a", _, "b", rfl, rfl, rfl⟩
    have second : (unexpectedToken "a#c" 1 [.ofChar '#']).WellFormed :=
      ⟨by decide, "a", _, "c", rfl, rfl, rfl⟩
    obtain ⟨shown, shown', before, after, before', after', rendered, rendered', cut, cut',
      same_iff⟩ := unexpected first second
    have before_eq : before = "a" := congrArg Prod.fst (Except.ok.inj cut.symm)
    have before_eq' : before' = "a" := congrArg Prod.fst (Except.ok.inj cut'.symm)
    have same := same_iff.mpr ⟨rfl, rfl, before_eq.trans before_eq'.symm⟩
    exact ⟨shown, rendered, same ▸ rendered'⟩

end Fault

end ScanFault
