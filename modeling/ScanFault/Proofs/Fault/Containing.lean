import ScanFault.Proofs.Fault.Calling
import ScanFault.Proofs.Offset.Utf8

/-!
# What a line contains

An invalid escape sequence and an invalid identifier must occur in their lines.  This is looked up
among code points, so a line or a part without an encoding is as good as any.

Where there are encodings, the part occurs in the line exactly when its bytes occur in the bytes of
the line.  A run of bytes might begin or end inside a character.  It does not: its first byte is a
lead byte, so it begins where a character begins, and from there on the bytes tell the characters
one after the other (`Text.infix_utf8_iff`).  Nor does it matter whether the part is looked for by
offset (`Text.exists_cutAt_cutAt_iff`).

The main statement is `Finding.contained_exactly_as_bytes`.
-/

namespace ScanFault

namespace Text

/-! ## Occurrences in bytes -/

/-- Bytes that begin with those of a text are the bytes of the text and of what is behind it. -/
theorem exists_append_of_utf8_append {part rest : Text} {bytes : List UInt8}
    (same : part.flatMap CodePoint.utf8 ++ bytes = rest.flatMap CodePoint.utf8) :
    ∃ after, rest = part ++ after := by
  induction part generalizing rest with
  | nil => exact ⟨rest, rfl⟩
  | cons c part ih =>
    rw [List.flatMap_cons, List.append_assoc] at same
    cases rest with
    | nil =>
      obtain ⟨lead, tail, bytes_eq, -, -, -⟩ := c.utf8_lead
      rw [bytes_eq] at same
      cases same
    | cons d rest =>
      rw [List.flatMap_cons] at same
      obtain ⟨rfl, rest_eq⟩ := CodePoint.utf8_append_inj same
      obtain ⟨after, rfl⟩ := ih rest_eq
      exact ⟨after, rfl⟩

/-- A part occurs in a text exactly when its bytes occur in the bytes of the text. -/
theorem infix_utf8_iff {text part : Text} :
    part.flatMap CodePoint.utf8 <:+: text.flatMap CodePoint.utf8 ↔
      ∃ before after, text = before ++ part ++ after := by
  constructor
  · intro occurs
    obtain ⟨front, back, bytes_eq⟩ := occurs
    cases part with
    | nil => exact ⟨[], text, rfl⟩
    | cons c part =>
      obtain ⟨lead, tail, lead_eq, -, lead_first, -⟩ := c.utf8_lead
      have here : (text.flatMap CodePoint.utf8)[front.length]? = some lead := by
        rw [← bytes_eq, List.flatMap_cons, lead_eq]
        simp
      obtain ⟨before, rest, rfl, width_eq⟩ := isBoundary_of_lead here lead_first
      rw [List.flatMap_append, List.append_assoc] at bytes_eq
      obtain ⟨-, rest_eq⟩ :=
        List.append_inj bytes_eq (by rw [length_flatMap_utf8, width_eq])
      obtain ⟨after, rfl⟩ := exists_append_of_utf8_append rest_eq
      exact ⟨before, after, (List.append_assoc ..).symm⟩
  · intro occurs
    obtain ⟨before, after, rfl⟩ := occurs
    rw [List.flatMap_append, List.flatMap_append]
    exact List.infix_append ..

/-- A part occurs in an encodable text exactly when two cuts separate it. -/
theorem exists_cutAt_cutAt_iff {text part : Text} (encodable : text.Encodable)
    (part_encodable : part.Encodable) :
    (∃ index before rest size after, text.cutAt index = .ok (before, rest) ∧
        part.size = .ok size ∧ rest.cutAt size = .ok (part, after)) ↔
      ∃ before after, text = before ++ part ++ after := by
  constructor
  · intro occurs
    obtain ⟨index, before, rest, size, after, first, -, second⟩ := occurs
    obtain ⟨-, rfl, -⟩ := cutAt_eq_ok_iff.mp first
    obtain ⟨-, rfl, -⟩ := cutAt_eq_ok_iff.mp second
    exact ⟨before, after, (List.append_assoc ..).symm⟩
  · intro occurs
    obtain ⟨before, after, rfl⟩ := occurs
    rw [List.append_assoc] at encodable ⊢
    exact ⟨before.width, before, part ++ after, part.width, after, cutAt_append encodable,
      size_of_encodable part_encodable, cutAt_append (encodable_append_iff.mp encodable).2⟩

end Text

namespace Finding

/-! ## Faults that quote their line -/

section Line

variable {line part : Text}

theorem invalidEscape_eq_ok_iff :
    (∃ fault, (invalidEscape line part).toFault.result = .ok fault) ↔
      ∃ before after, line = before ++ part ++ after := by
  constructor
  · intro made
    obtain ⟨fault, made⟩ := made
    exact (Fault.accept_result_eq_ok_iff.mp made).1
  · intro occurs
    exact ⟨_, Fault.accept_result_eq_ok_iff.mpr ⟨occurs, rfl⟩⟩

theorem invalidEscape_of_not_occurs (absent : ¬ ∃ before after, line = before ++ part ++ after) :
    (invalidEscape line part).toFault = .refuse (.violation (.escapeNotInLine part line)) := by
  rw [← Text.contains_iff] at absent
  rw [toFault, Fault.accept, Fault.check, if_neg absent]
  rfl

theorem invalidEscape_eq_error {refusal : Refusal}
    (refused : (invalidEscape line part).toFault.result = .error refusal) :
    refusal = .violation (.escapeNotInLine part line) := by
  by_cases occurs : ∃ before after, line = before ++ part ++ after
  · obtain ⟨fault, made⟩ := invalidEscape_eq_ok_iff.mpr occurs
    cases refused.symm.trans made
  · rw [invalidEscape_of_not_occurs occurs] at refused
    exact (Except.error.inj refused).symm

end Line

/-- A fault that quotes a part of its line is made on a line that contains the part.  An escape
sequence is looked up among the code points of the line, surrogates included, and the empty one is
in every line.  Where both have encodings, the sequence is in the line exactly when its bytes are
among those of the line, one behind the other, and exactly when two cuts separate it.  An identifier
is looked up in the same way, before its predicate is asked. -/
theorem contained_exactly_as_bytes (line part : Text) :
    ((∃ fault, (invalidEscape line part).toFault.result = .ok fault) ↔
      ∃ before after, line = before ++ part ++ after) ∧
    ((¬ ∃ fault, (invalidEscape line part).toFault.result = .ok fault) →
      ∃ broken, (invalidEscape line part).toFault.result = .error (.violation broken) ∧
        broken.message = "`line` must contain `escape` (self.escape=" ++ part.quoted
          ++ ", self.line=" ++ line.quoted ++ ")") ∧
    (invalidEscape line []).toFault = pure (.invalidEscape line []) ∧
    (∀ bytes run, line.encode? = some bytes → part.encode? = some run →
      ((∃ fault, (invalidEscape line part).toFault.result = .ok fault) ↔ run <:+: bytes) ∧
      ((∃ fault, (invalidEscape line part).toFault.result = .ok fault) ↔
        ∃ index before rest size after, line.cutAt index = .ok (before, rest) ∧
          part.size = .ok size ∧ rest.cutAt size = .ok (part, after))) ∧
    ∀ isValid,
      ((∃ fault, (invalidEscape line part).toFault.result = .ok fault) →
        (invalidIdentifier line part isValid).toFault.calls = [⟨isValid, part⟩] ∧
        (invalidIdentifier line part isValid).toFault.result ≠
          .error (.violation (.identifierNotInLine part line))) ∧
      ((¬ ∃ fault, (invalidEscape line part).toFault.result = .ok fault) →
        (invalidIdentifier line part isValid).toFault =
          .refuse (.violation (.identifierNotInLine part line)) ∧
        (Violation.identifierNotInLine part line).message =
          "`line` must contain `identifier` (self.ident=" ++ part.quoted ++ ", self.line="
            ++ line.quoted ++ ")") := by
  rw [invalidEscape_eq_ok_iff]
  refine ⟨Iff.rfl, ?_, ?_, ?_, ?_⟩
  · intro absent
    refine ⟨.escapeNotInLine part line, ?_, Violation.message_escapeNotInLine part line⟩
    rw [invalidEscape_of_not_occurs absent]
    rfl
  · have occurs : line.contains [] = true := Text.contains_iff.mpr ⟨[], line, rfl⟩
    rw [toFault, Fault.accept, Fault.check, if_pos occurs]
    rfl
  · intro bytes run encoded part_encoded
    obtain ⟨encodable, rfl⟩ := Text.encode?_eq_some_iff.mp encoded
    obtain ⟨part_encodable, rfl⟩ := Text.encode?_eq_some_iff.mp part_encoded
    exact ⟨Text.infix_utf8_iff.symm,
      (Text.exists_cutAt_cutAt_iff encodable part_encodable).symm⟩
  · intro isValid
    have disciplined := Fault.accept_disciplined line part isValid
    refine ⟨fun occurs => disciplined.of_occurs occurs, fun absent => ?_⟩
    exact ⟨disciplined.absent absent, Violation.message_identifierNotInLine part line⟩

/-- A lone surrogate is found in its line.  The escape sequence `\q` stands behind a character of
two bytes, and its bytes stand behind two others.  The signs `é` and `©` have their second bytes in
common, and neither has the other in it. -/
theorem contained_exactly_as_bytes_wide :
    (∃ c : CodePoint, c.isSurrogate = true ∧
        ∃ fault, (invalidEscape [c, .ofChar 'n'] [c]).toFault.result = .ok fault) ∧
      Text.encode? "é\\q" = some [0xC3, 0xA9, 0x5C, 0x71] ∧
      Text.encode? "\\q" = some [0x5C, 0x71] ∧
      [0x5C, 0x71] <:+: [(0xC3 : UInt8), 0xA9, 0x5C, 0x71] ∧
      (∃ index before rest size after, Text.cutAt "é\\q" index = .ok (before, rest) ∧
        Text.size "\\q" = .ok size ∧ rest.cutAt size = .ok ("\\q", after)) ∧
      Text.encode? "é" = some [0xC3, 0xA9] ∧ Text.encode? "©" = some [0xC2, 0xA9] ∧
      (¬ ∃ fault, (invalidEscape "é" "©").toFault.result = .ok fault) ∧
      (∃ broken, (invalidEscape "é" "©").toFault.result = .error (.violation broken) ∧
        broken.message = "`line` must contain `escape` (self.escape=" ++ Text.quoted "©"
          ++ ", self.line=" ++ Text.quoted "é" ++ ")") ∧
      (invalidIdentifier "é\\q" "\\q" .always).toFault.calls = [⟨.always, "\\q"⟩] ∧
      (invalidIdentifier "é" "©" .always).toFault =
        .refuse (.violation (.identifierNotInLine "©" "é")) := by
  have encoded : Text.encode? "é\\q" = some [0xC3, 0xA9, 0x5C, 0x71] := by decide
  have part_encoded : Text.encode? "\\q" = some [0x5C, 0x71] := by decide
  have encoded' : Text.encode? "é" = some [0xC3, 0xA9] := by decide
  have part_encoded' : Text.encode? "©" = some [0xC2, 0xA9] := by decide
  obtain ⟨surrogate, -⟩ :=
    contained_exactly_as_bytes [⟨0xDC80, by omega⟩, .ofChar 'n'] [⟨0xDC80, by omega⟩]
  obtain ⟨made_iff, -, -, bytes, called⟩ := contained_exactly_as_bytes "é\\q" "\\q"
  obtain ⟨-, refused, -, bytes', called'⟩ := contained_exactly_as_bytes "é" "©"
  have made := made_iff.mpr ⟨"é", [], rfl⟩
  have absent : ¬ ∃ fault, (invalidEscape "é" "©").toFault.result = .ok fault :=
    fun made => absurd ((bytes' _ _ encoded' part_encoded').1.mp made) (by decide)
  exact ⟨⟨⟨0xDC80, by omega⟩, rfl, surrogate.mpr ⟨[], [.ofChar 'n'], rfl⟩⟩, encoded, part_encoded,
    (bytes _ _ encoded part_encoded).1.mp made, (bytes _ _ encoded part_encoded).2.mp made,
    encoded', part_encoded', absent, refused absent, ((called .always).1 made).1,
    ((called' .always).2 absent).1⟩

end Finding

end ScanFault
