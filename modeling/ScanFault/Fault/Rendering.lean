import ScanFault.Fault.Making

/-!
# Rendering

The rendering of a fault is one line for the user.  A fault with an index shows its line with a mark
at the index.  An expected escape leaves out the character that it is about, and an unexpected token
leaves out the rest of the line.

An expected identifier or token may have an index inside a character.  Such a fault exists and has
no rendering.
-/

namespace ScanFault

/-- The mark at the index of a fault. -/
def mark : Text := "\x7bhere\x7d"

namespace Fault

/-- The line for the user, unless the index lies inside a character. -/
def render : Fault → Except Violation Text
  | expectedIdentifier line index => do
      let (before, after) ← line.cutAt index
      return "Expected identifier " ++ before ++ mark ++ after
  | expectedToken line index tokens => do
      let (before, after) ← line.cutAt index
      return "Expected " ++ tokens ++ " " ++ before ++ mark ++ after
  | expectedEscape line index replace token => do
      let (before, _) ← line.cutAt index
      let size ← token.size
      let (_, rest) ← line.cutAt (index + size)
      return "Expected escape sequence " ++ replace ++ " instead of " ++ token ++ " in " ++ before
        ++ mark ++ rest
  | unexpectedToken line index token => do
      let (before, _) ← line.cutAt index
      return "Unexpected token " ++ token ++ " " ++ before ++ mark
  | invalidEscape line escape =>
      return "Invalid escape sequence " ++ escape ++ " in " ++ line
  | invalidIdentifier line ident _ =>
      return "Invalid identifier " ++ ident ++ " in " ++ line

end Fault

/-- The rendering of the fault of a finding. -/
def Finding.display (finding : Finding) : Attempt Text := do
  let fault ← finding.toFault
  .checked fault.render

/-- A finding is displayed as its fault is rendered. -/
theorem Finding.display_result_eq_ok_iff {finding : Finding} {shown : Text} :
    finding.display.result = .ok shown ↔
      ∃ fault, finding.toFault.result = .ok fault ∧ fault.render = .ok shown := by
  rw [display, Attempt.result_bind_eq_ok_iff]
  simp only [Attempt.result_checked_eq_ok_iff]

end ScanFault
