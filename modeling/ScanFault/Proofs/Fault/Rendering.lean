import ScanFault.Fault.Rendering
import ScanFault.Fault.WellFormed

/-!
# Which faults have a rendering

A fault is checked when it is made, and it is rendered later, by other code that checks again.  A
well-formed fault passes all of these later checks but one.  An expected identifier or token may
have an index inside a character, which only the rendering looks at.  Such a fault is misplaced,
and it is refused at the cut of its line.  Every other well-formed fault has a rendering
(`Fault.exists_render_eq_ok_iff`).

An expected escape cuts its line twice.  The second cut is behind the token, and the token is the
character at the index, so that cut is at a boundary too (`Fault.render_expectedEscape`).
-/

namespace ScanFault

namespace Fault

/-- The fault has nothing but an index to tell its place, and the index lies inside a character. -/
def Misplaced : Fault → Prop
  | expectedIdentifier line index
  | expectedToken line index _ => line.IsInside index
  | _ => False

/-! ## Renderings at a boundary -/

section Boundary

variable {before after : Text} {c : CodePoint}

theorem render_expectedIdentifier (encodable : Text.Encodable (before ++ after)) :
    (expectedIdentifier (before ++ after) before.width).render =
      .ok ("Expected identifier " ++ before ++ mark ++ after) := by
  rw [render, Text.cutAt_append encodable]
  rfl

theorem render_expectedToken (encodable : Text.Encodable (before ++ after)) (tokens : Text) :
    (expectedToken (before ++ after) before.width tokens).render =
      .ok ("Expected " ++ tokens ++ " " ++ before ++ mark ++ after) := by
  rw [render, Text.cutAt_append encodable]
  rfl

/-- The rendering of an expected escape leaves out the one character at the index. -/
theorem render_expectedEscape (encodable : Text.Encodable (before ++ c :: after))
    (replace : Text) :
    (expectedEscape (before ++ c :: after) before.width replace [c]).render =
      .ok ("Expected escape sequence " ++ replace ++ " instead of " ++ [c] ++ " in " ++ before
        ++ mark ++ after) := by
  -- Behind the token is a boundary too: the offset there is the width of `before ++ [c]`.
  have line_eq : before ++ c :: after = (before ++ [c]) ++ after := by
    rw [List.append_assoc, List.singleton_append]
  have encodable_token : Text.Encodable [c] :=
    (Text.encodable_append_iff.mp (Text.encodable_append_iff.mp (line_eq ▸ encodable)).1).2
  have second : Text.cutAt (before ++ c :: after) (before.width + Text.width [c]) =
      .ok (before ++ [c], after) := by
    have width_eq : (before.width : Int) + Text.width [c] = Text.width (before ++ [c]) := by
      rw [Text.width_append, Int.natCast_add]
    rw [line_eq, width_eq]
    exact Text.cutAt_append (line_eq ▸ encodable)
  rw [render, Text.cutAt_append encodable, Text.size_of_encodable encodable_token]
  simp only [bind, Except.bind, second]
  rfl

theorem render_unexpectedToken (encodable : Text.Encodable (before ++ after)) (token : Text) :
    (unexpectedToken (before ++ after) before.width token).render =
      .ok ("Unexpected token " ++ token ++ " " ++ before ++ mark) := by
  rw [render, Text.cutAt_append encodable]
  rfl

end Boundary

/-! ## Well-formed faults -/

/-- A misplaced fault is refused at the cut of its line. -/
theorem render_of_misplaced {fault : Fault} (wellFormed : fault.WellFormed)
    (misplaced : fault.Misplaced) :
    ∃ index, fault.fields.lookup .index = some (.number index) ∧
      fault.render = .error (.cutInside index fault.line) := by
  cases fault with
  | expectedIdentifier line index =>
    refine ⟨index, rfl, ?_⟩
    rw [render, Text.cutAt_of_isInside wellFormed.1 misplaced]
    rfl
  | expectedToken line index tokens =>
    refine ⟨index, rfl, ?_⟩
    rw [render, Text.cutAt_of_isInside wellFormed.1 misplaced]
    rfl
  | expectedEscape line index replace token => exact misplaced.elim
  | unexpectedToken line index token => exact misplaced.elim
  | invalidEscape line escape => exact misplaced.elim
  | invalidIdentifier line ident isValid => exact misplaced.elim

theorem render_of_not_misplaced {fault : Fault} (wellFormed : fault.WellFormed)
    (placed : ¬ fault.Misplaced) : ∃ text, fault.render = .ok text := by
  cases fault with
  | expectedIdentifier line index =>
    obtain ⟨encodable, nonneg, before_end⟩ := wellFormed
    obtain ⟨before, after, rfl, rfl, -⟩ :=
      Text.cutAt_of_not_isInside encodable nonneg before_end placed
    exact ⟨_, render_expectedIdentifier encodable⟩
  | expectedToken line index tokens =>
    obtain ⟨encodable, nonneg, before_end⟩ := wellFormed
    obtain ⟨before, after, rfl, rfl, -⟩ :=
      Text.cutAt_of_not_isInside encodable nonneg before_end placed
    exact ⟨_, render_expectedToken encodable tokens⟩
  | expectedEscape line index replace token =>
    obtain ⟨encodable, before, c, after, rfl, rfl, rfl⟩ := wellFormed
    exact ⟨_, render_expectedEscape encodable replace⟩
  | unexpectedToken line index token =>
    obtain ⟨encodable, before, c, after, rfl, rfl, rfl⟩ := wellFormed
    exact ⟨_, render_unexpectedToken encodable [c]⟩
  | invalidEscape line escape => exact ⟨_, rfl⟩
  | invalidIdentifier line ident isValid => exact ⟨_, rfl⟩

theorem exists_render_eq_ok_iff {fault : Fault} (wellFormed : fault.WellFormed) :
    (∃ text, fault.render = .ok text) ↔ ¬ fault.Misplaced := by
  constructor
  · intro has_rendering misplaced
    obtain ⟨text, rendered⟩ := has_rendering
    obtain ⟨index, -, refused⟩ := render_of_misplaced wellFormed misplaced
    rw [rendered] at refused
    cases refused
  · exact render_of_not_misplaced wellFormed

/-- The only refusal of a rendering is that of a cut inside a character, at the index and in the
line of the fault. -/
theorem render_eq_error {fault : Fault} (wellFormed : fault.WellFormed) {broken : Violation}
    (refused : fault.render = .error broken) :
    ∃ index, fault.fields.lookup .index = some (.number index) ∧
      broken = .cutInside index fault.line := by
  by_cases misplaced : fault.Misplaced
  · obtain ⟨index, index_eq, cut_refused⟩ := render_of_misplaced wellFormed misplaced
    rw [refused, Except.error.injEq] at cut_refused
    exact ⟨index, index_eq, cut_refused⟩
  · obtain ⟨text, rendered⟩ := render_of_not_misplaced wellFormed misplaced
    rw [rendered] at refused
    cases refused

end Fault

end ScanFault
