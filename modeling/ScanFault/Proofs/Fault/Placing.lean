import Mathlib.Logic.ExistsUnique
import ScanFault.Proofs.Fault.Deriving
import ScanFault.Proofs.Fault.Rendering

/-!
# The kinds with an index agree

Four kinds of faults have an index, and they get at it in different ways.  An expected identifier or
token has its index compared with the size of the line, and the line is cut when the fault is
rendered.  An expected escape or an unexpected token has the character read when it is made, and the
line is cut once or twice for the rendering.

An index points to one place in a line (`Text.existsUnique_pointsTo`), and the place decides what
becomes of all four.  At the start of a character all are made, and the renderings show the same
parts of the line.  Inside a character two are made and not rendered, and two are not made.
Anywhere else none is made, and all are refused alike: for a broken precondition, unless the index
has more digits than are written.  The main statement is `Finding.atIndex_agree`.  In particular all
four are displayed, or none is.
-/

namespace ScanFault

/-! ## Places -/

/-- Where an index points in a line. -/
inductive Place where
  /-- To the first byte of a character, between the text before it and the text behind it. -/
  | start (before : Text) (c : CodePoint) (after : Text)
  /-- To a later byte of a character. -/
  | inside
  /-- To no byte: the line has no encoding, or the index lies outside it. -/
  | nowhere

namespace Text

/-- The index points to this place in the line. -/
def PointsTo (line : Text) (index : Int) : Place → Prop
  | .start before c after =>
      line.Encodable ∧ line = before ++ c :: after ∧ (before.width : Int) = index
  | .inside => line.Encodable ∧ line.IsInside index
  | .nowhere => ¬ line.Encodable ∨ index < 0 ∨ line.width ≤ index

/-- The place that a cut at the index tells.  Behind the last character a cut is made, and still the
index points to no byte. -/
def place (line : Text) (index : Int) : Place :=
  match line.cutAt index with
  | .ok (before, c :: after) => .start before c after
  | .ok (_, []) => .nowhere
  | .error (.cutInside _ _) => .inside
  | .error _ => .nowhere

section Place

variable {line : Text} {index : Int}

theorem exists_pointsTo (line : Text) (index : Int) : ∃ place, line.PointsTo index place := by
  rcases line.charAt_outcome index with ⟨negative, -⟩ | ⟨-, unencodable, -⟩ |
    ⟨-, beyond, -⟩ | ⟨encodable, nonneg, before_end, refused⟩ |
    ⟨encodable, before, c, after, line_eq, width_eq, -⟩
  · exact ⟨.nowhere, .inr (.inl negative)⟩
  · exact ⟨.nowhere, .inl unencodable⟩
  · exact ⟨.nowhere, .inr (.inr beyond)⟩
  · -- A character would be read at the index, if a character began there.
    refine ⟨.inside, encodable, ?_⟩
    obtain ⟨offset, rfl⟩ := Int.eq_ofNat_of_zero_le nonneg
    refine isInside_iff.mpr ⟨Int.ofNat_lt.mp before_end, fun boundary => ?_⟩
    obtain ⟨c, found⟩ :=
      exists_charAt_eq_ok_iff.mpr ⟨encodable, Int.ofNat_lt.mp before_end, boundary⟩
    cases found.symm.trans refused
  · exact ⟨.start before c after, encodable, line_eq, width_eq⟩

theorem PointsTo.place_eq {place : Place} (points : line.PointsTo index place) :
    line.place index = place := by
  cases place with
  | start before c after =>
    obtain ⟨encodable, rfl, rfl⟩ := points
    rw [Text.place, cutAt_append encodable]
  | inside => rw [Text.place, cutAt_of_isInside points.1 points.2]
  | nowhere =>
    rcases Int.lt_or_le index 0 with negative | nonneg
    · rw [Text.place, cutAt_of_neg negative]
    by_cases encodable : line.Encodable
    · have beyond : (line.width : Int) ≤ index := by
        rcases points with unencodable | negative | beyond
        · exact absurd encodable unencodable
        · omega
        · exact beyond
      rcases Int.lt_or_eq_of_le beyond with behind | rfl
      · rw [Text.place, cutAt_of_lt encodable behind]
      · have made : line.cutAt line.width = .ok (line, []) :=
          cutAt_eq_ok_iff.mpr ⟨encodable, List.append_nil line, rfl⟩
        rw [Text.place, made]
    · rw [Text.place, cutAt_of_not_encodable nonneg encodable]

theorem PointsTo.unique {place place' : Place} (points : line.PointsTo index place)
    (points' : line.PointsTo index place') : place = place' :=
  points.place_eq.symm.trans points'.place_eq

/-- An index points to exactly one place. -/
theorem existsUnique_pointsTo (line : Text) (index : Int) :
    ∃! place, line.PointsTo index place := by
  obtain ⟨place, points⟩ := line.exists_pointsTo index
  exact ⟨place, points, fun _ points' => points'.unique points⟩

/-- An index points to a byte exactly when it lies in an encodable line. -/
theorem PointsTo.ne_nowhere_iff {place : Place} (points : line.PointsTo index place) :
    place ≠ .nowhere ↔ line.Encodable ∧ 0 ≤ index ∧ index < line.width := by
  cases place with
  | start before c after =>
    obtain ⟨encodable, rfl, rfl⟩ := points
    have := c.width_pos
    refine iff_of_true (fun h => nomatch h) ⟨encodable, Int.natCast_nonneg _, ?_⟩
    rw [width_append, width_cons]
    omega
  | inside =>
    obtain ⟨encodable, before, c, after, rfl, behind, ahead⟩ := points
    refine iff_of_true (fun h => nomatch h) ⟨encodable, by omega, ?_⟩
    rw [width_append, width_cons]
    omega
  | nowhere =>
    refine iff_of_false (fun h => h rfl) ?_
    rintro ⟨encodable, nonneg, before_end⟩
    rcases points with unencodable | negative | beyond
    · exact unencodable encodable
    · omega
    · omega

/-- A character is read only at the start of one. -/
theorem PointsTo.exists_charAt_eq_error {place : Place} (points : line.PointsTo index place)
    (no_start : ∀ before c after, place ≠ .start before c after) :
    ∃ broken, line.charAt index = .error broken := by
  cases found : line.charAt index with
  | error broken => exact ⟨broken, rfl⟩
  | ok c =>
    obtain ⟨encodable, before, after, line_eq, width_eq⟩ := charAt_eq_ok_iff.mp found
    have starts : line.PointsTo index (.start before c after) := ⟨encodable, line_eq, width_eq⟩
    exact absurd (points.unique starts) (no_start before c after)

end Place

end Text

namespace Finding

/-! ## Findings with an index -/

/-- The four findings at an index. -/
def atIndex (line : Text) (index : Int) (tokens replace : Text) : List Finding :=
  [.expectedIdentifier line index, .expectedToken line index tokens,
    .expectedEscape line index replace, .unexpectedToken line index]

/-- The finding has this fault, and the fault has this rendering. -/
structure Shows (finding : Finding) (fault : Fault) (text : Text) : Prop where
  made : finding.toFault = pure fault
  rendered : fault.render = .ok text

/-- The finding has this fault, and the fault is refused a rendering. -/
structure Hides (finding : Finding) (fault : Fault) (broken : Violation) : Prop where
  made : finding.toFault = pure fault
  refused : fault.render = .error broken

/-- The finding has a fault with a rendering. -/
def Displayed (finding : Finding) : Prop :=
  ∃ text, finding.display.result = .ok text

theorem Shows.displayed {finding : Finding} {fault : Fault} {text : Text}
    (shown : finding.Shows fault text) : finding.Displayed := by
  refine ⟨text, ?_⟩
  rw [display, shown.made]
  show (Attempt.checked fault.render).result = .ok text
  exact Attempt.result_checked_eq_ok_iff.mpr shown.rendered

theorem Hides.not_displayed {finding : Finding} {fault : Fault} {broken : Violation}
    (hides : finding.Hides fault broken) : ¬ finding.Displayed := by
  rintro ⟨text, displayed⟩
  rw [display, hides.made] at displayed
  have rendered := Attempt.result_checked_eq_ok_iff.mp displayed
  cases rendered.symm.trans hides.refused

theorem not_displayed_of_refuse {finding : Finding} {refusal : Refusal}
    (refused : finding.toFault = .refuse refusal) : ¬ finding.Displayed := by
  rintro ⟨text, displayed⟩
  rw [display, refused] at displayed
  cases displayed

/-! ## Places and findings -/

section Index

variable {line : Text} {index : Int}

/-- At the start of a character all four are made, and the character is the token.  The renderings
show the line with the mark in front of the character, with the mark in its place, and up to the
mark. -/
theorem shows_of_start {before after : Text} {c : CodePoint}
    (points : line.PointsTo index (.start before c after)) (tokens replace : Text) :
    (expectedIdentifier line index).Shows (.expectedIdentifier line index)
      ("Expected identifier " ++ before ++ mark ++ c :: after) ∧
    (expectedToken line index tokens).Shows (.expectedToken line index tokens)
      ("Expected " ++ tokens ++ " " ++ before ++ mark ++ c :: after) ∧
    (expectedEscape line index replace).Shows (.expectedEscape line index replace [c])
      ("Expected escape sequence " ++ replace ++ " instead of " ++ [c] ++ " in " ++ before ++ mark
        ++ after) ∧
    (unexpectedToken line index).Shows (.unexpectedToken line index [c])
      ("Unexpected token " ++ [c] ++ " " ++ before ++ mark) := by
  have passed : Fault.checkIndex line index = .ok () :=
    Fault.checkIndex_eq_ok_iff.mpr (points.ne_nowhere_iff.mp fun h => nomatch h)
  obtain ⟨encodable, rfl, rfl⟩ := points
  have found := Text.charAt_append encodable
  exact ⟨⟨Fault.accept_of_ok rfl passed, Fault.render_expectedIdentifier encodable⟩,
    ⟨Fault.accept_of_ok rfl passed, Fault.render_expectedToken encodable tokens⟩,
    ⟨(OmitsToken.expectedEscape replace).toFault_of_ok found,
      Fault.render_expectedEscape encodable replace⟩,
    ⟨OmitsToken.unexpectedToken.toFault_of_ok found, Fault.render_unexpectedToken encodable [c]⟩⟩

/-- Where no character can be read, an expected escape and an unexpected token are refused as the
reading is. -/
theorem toFault_of_charAt_eq_error {broken : Violation}
    (refused : line.charAt index = .error broken) (replace : Text) :
    (expectedEscape line index replace).toFault = .refuse broken.refusal ∧
      (unexpectedToken line index).toFault = .refuse broken.refusal :=
  ⟨(OmitsToken.expectedEscape replace).toFault_of_error refused,
    OmitsToken.unexpectedToken.toFault_of_error refused⟩

/-- Inside a character an expected identifier and an expected token are made and have no rendering.
The other two are not made. -/
theorem hides_of_inside (points : line.PointsTo index .inside) (tokens replace : Text) :
    (expectedIdentifier line index).Hides (.expectedIdentifier line index)
      (.cutInside index line) ∧
    (expectedToken line index tokens).Hides (.expectedToken line index tokens)
      (.cutInside index line) ∧
    (expectedEscape line index replace).toFault =
      .refuse (Violation.characterInside index line).refusal ∧
    (unexpectedToken line index).toFault =
      .refuse (Violation.characterInside index line).refusal := by
  have passed : Fault.checkIndex line index = .ok () :=
    Fault.checkIndex_eq_ok_iff.mpr (points.ne_nowhere_iff.mp fun h => nomatch h)
  obtain ⟨encodable, inside⟩ := points
  have cut_refused := Text.cutAt_of_isInside encodable inside
  refine ⟨⟨Fault.accept_of_ok rfl passed, ?_⟩, ⟨Fault.accept_of_ok rfl passed, ?_⟩,
    toFault_of_charAt_eq_error (Text.charAt_of_isInside encodable inside) replace⟩
  · rw [Fault.render, cut_refused]
    rfl
  · rw [Fault.render, cut_refused]
    rfl

/-- Where the index points to no byte, none of the four is made, and it depends on the index alone
whether the message can be written. -/
theorem refused_of_nowhere (points : line.PointsTo index .nowhere) {tokens replace : Text}
    {finding : Finding} (listed : finding ∈ atIndex line index tokens replace) :
    ∃ broken : Violation, finding.toFault = .refuse broken.refusal ∧
      (broken.Writable ↔ ¬ line.TooLong index) := by
  obtain ⟨unread, char_refused⟩ := points.exists_charAt_eq_error fun _ _ _ h => nomatch h
  obtain ⟨unplaced, index_refused⟩ : ∃ broken, Fault.checkIndex line index = .error broken := by
    cases checked : Fault.checkIndex line index with
    | error broken => exact ⟨broken, rfl⟩
    | ok passed =>
      have in_line := Fault.checkIndex_eq_ok_iff.mp checked
      exact absurd rfl (points.ne_nowhere_iff.mpr in_line)
  have unplaced_writable := Fault.writable_of_checkIndex_eq_error index_refused
  have unread_writable := Text.writable_of_charAt_eq_error char_refused
  simp only [atIndex, List.mem_cons, List.not_mem_nil, or_false] at listed
  rcases listed with rfl | rfl | rfl | rfl
  · exact ⟨unplaced, Fault.accept_of_error rfl index_refused, unplaced_writable⟩
  · exact ⟨unplaced, Fault.accept_of_error rfl index_refused, unplaced_writable⟩
  · exact ⟨unread, (toFault_of_charAt_eq_error char_refused replace).1, unread_writable⟩
  · exact ⟨unread, (toFault_of_charAt_eq_error char_refused replace).2, unread_writable⟩

end Index

end Finding

end ScanFault
