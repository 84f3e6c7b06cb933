import ScanFault.Proofs.Fault.Rendering
import ScanFault.Proofs.Session.Sound

/-!
# Rendering is safe in every session

A session only holds well-formed faults, so what is known of their renderings holds of every bound
item, however it came to be bound.  The main statement is `Session.reachable_render`.  An item has a
rendering unless its fault is misplaced, and the refusal then names the index and the line.  An
expected escape always has one.
-/

namespace ScanFault

/-- The line for the user.  That of a report is the one of its current fault. -/
def Item.render : Item → Except Violation Text
  | .fault content => content.render
  | .report content => content.render

theorem Item.render_eq (item : Item) : item.render = item.current.render := by
  cases item with
  | fault content => rfl
  | report content => rfl

theorem Item.current_mem_faults (item : Item) : item.current ∈ item.faults := by
  cases item with
  | fault content => exact List.mem_singleton.mpr rfl
  | report content => exact List.mem_cons_self ..

namespace Session

/-- The current fault of a bound item is well-formed. -/
theorem Reachable.current_wellFormed {session : Session} (reachable : session.Reachable)
    {name : String} {item : Item} (found : session.lookup? name = some item) :
    item.current.WellFormed :=
  reachable.sound.lookup? found item.current item.current_mem_faults

/-- In a reachable session every bound item has a rendering, unless the fault that it shows is
misplaced.  The refusal is then that of a cut inside a character.  An expected escape is shown with
its one character taken out of the line. -/
theorem reachable_render {session : Session} (reachable : session.Reachable) {name : String}
    {item : Item} (found : session.lookup? name = some item) :
    ((∃ text, item.render = .ok text) ↔ ¬ item.current.Misplaced) ∧
    (∀ broken, item.render = .error broken →
      ∃ index, item.current.fields.lookup .index = some (.number index) ∧
        broken = .cutInside index item.current.line ∧
        broken.message =
          "`index` is not on a character boundary (index=" ++ Text.ofInt index ++ ", string="
            ++ item.current.line.quoted ++ ")") ∧
    ∀ line index replace token, item.current = .expectedEscape line index replace token →
      ∃ before after, line = before ++ token ++ after ∧
        item.render = .ok ("Expected escape sequence " ++ replace ++ " instead of " ++ token
          ++ " in " ++ before ++ mark ++ after) := by
  have wellFormed := reachable.current_wellFormed found
  rw [item.render_eq]
  refine ⟨Fault.exists_render_eq_ok_iff wellFormed, ?_, ?_⟩
  · intro broken refused
    obtain ⟨index, index_eq, rfl⟩ := Fault.render_eq_error wellFormed refused
    exact ⟨index, index_eq, rfl, Violation.message_cutInside index item.current.line⟩
  · intro line index replace token current_eq
    rw [current_eq] at wellFormed ⊢
    obtain ⟨encodable, before, c, after, rfl, rfl, rfl⟩ := wellFormed
    refine ⟨before, after, ?_, Fault.render_expectedEscape encodable replace⟩
    rw [List.append_assoc, List.singleton_append]

/-- A report is given a fault whose index lies inside a character, and has no rendering from then
on. -/
theorem reachable_render_misplaced :
    ∃ session : Session, session.Reachable ∧
      session.lookup? "report" =
        some (.report ⟨.unexpectedToken [.ofChar 'é', .ofChar '#'] 2 [.ofChar '#'],
          .expectedIdentifier [.ofChar 'é', .ofChar '#'] 1⟩) ∧
      ¬ ∃ text, (Fault.expectedIdentifier [.ofChar 'é', .ofChar '#'] 1).render = .ok text := by
  have run : ∃ session : Session, session.Reachable ∧
      session.lookup? "report" =
        some (.report ⟨.unexpectedToken [.ofChar 'é', .ofChar '#'] 2 [.ofChar '#'],
          .expectedIdentifier [.ofChar 'é', .ofChar '#'] 1⟩) :=
    ⟨_, ⟨[.build "fault" (.make (.expectedIdentifier [.ofChar 'é', .ofChar '#'] 1)),
      .build "report" (.report (.unexpectedToken [.ofChar 'é', .ofChar '#'] 2)),
      .setFault "report" "fault"], rfl⟩, rfl⟩
  obtain ⟨session, reachable, found⟩ := run
  obtain ⟨rendered_iff, -, -⟩ := reachable_render reachable found
  refine ⟨session, reachable, found, fun rendered => rendered_iff.mp rendered ?_⟩
  exact ⟨[], .ofChar 'é', [.ofChar '#'], rfl, by decide, by decide⟩

end Session

end ScanFault
