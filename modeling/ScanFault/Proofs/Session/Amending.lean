import ScanFault.Proofs.Fault.Amending
import ScanFault.Proofs.Session.Frame

/-!
# Changed faults in sessions

To build a bound fault with changes is to build the fault with its fields overridden from scratch:
the same item or the same refusal comes out, with the same calls.  Nothing is read from the line on
the way, so a token and a predicate are carried over.  Changes to a field that the fault does not
have are refused before anything else.

The main statement is `Session.reachable_replace`.  A fault in a reachable session is well-formed,
so it is accepted again without changes.  Changes to a fault that was made with changes are changes
to the first fault.  A fault with a token can be moved to wherever the token stands.
-/

namespace ScanFault

namespace Session

section Replace

variable {session : Session} {name : String} {fault : Fault}

theorem build_replace_eq (found : session.lookup? name = some (.fault fault)) (changes : Changes) :
    session.build (.replace name changes) = (do
      let changed ← fault.replace changes
      return .fault changed) := by
  rw [build, lookup?_eq_fault_iff.mp found]
  rfl

theorem build_replace_eq_build_make (found : session.lookup? name = some (.fault fault))
    {changes : Changes} (own : changes.Own fault.kind) :
    session.build (.replace name changes) = session.build (.make (fault.amend changes)) := by
  rw [build_replace_eq found, Fault.replace_of_own own, build]

theorem build_replace_result_eq_ok_iff (found : session.lookup? name = some (.fault fault))
    {changes : Changes} {item : Item} :
    (session.build (.replace name changes)).result = .ok item ↔
      ∃ changed, (fault.replace changes).result = .ok changed ∧ item = .fault changed := by
  rw [build_replace_eq found]
  constructor
  · intro made
    obtain ⟨changed, accepted, ended⟩ := Attempt.result_bind_eq_ok_iff.mp made
    cases ended
    exact ⟨changed, accepted, rfl⟩
  · rintro ⟨changed, accepted, rfl⟩
    exact Attempt.result_bind_eq_ok_iff.mpr ⟨changed, accepted, rfl⟩

/-- A fault that was built with changes and is built with further ones. -/
theorem build_replace_replace (found : session.lookup? name = some (.fault fault))
    {first : Changes} {item : Item}
    (made : (session.build (.replace name first)).result = .ok item) (other : String)
    (second : Changes) :
    (session.step (.build other (.replace name first))).1.build (.replace other second) =
      session.build (.replace name (first.overriddenBy second)) := by
  rw [step_build_of_ok made]
  obtain ⟨changed, accepted, rfl⟩ := (build_replace_result_eq_ok_iff found).mp made
  rw [build_replace_eq found, ← Fault.replace_replace accepted,
    build_replace_eq (session.lookup?_bind_self other _)]

end Replace

/-- The laws of changes, for every fault that a name leads to in a reachable session.  There is one
fault with the fields overridden, and to change fields that the fault has is to accept that one.  To
change any other field is refused.  Without changes the fault itself is accepted.  Further changes
to a changed fault end as all of the changes at once, be it with a fault or a refusal.  A fault with
a token is accepted at another index or in another line exactly when the token is the character
there.  The builds of a session do the same. -/
theorem reachable_replace {session : Session} (reachable : session.Reachable) {name : String}
    {item : Item} (found : session.lookup? name = some item) {fault : Fault}
    (held : fault ∈ item.faults) :
    (∀ changes : Changes, changes.Own fault.kind →
      ∃ merged, (∀ other, fault.Merged changes other ↔ other = merged) ∧
        fault.replace changes = merged.accept) ∧
    (∀ changes : Changes, ¬ changes.Own fault.kind →
      ∃ field, changes.gives field = true ∧ fault.kind.has field = false ∧
        fault.replace changes = .refuse (.unexpectedField fault.kind field)) ∧
    (fault.replace {}).result = .ok fault ∧
    (∀ first changed, (fault.replace first).result = .ok changed → ∀ second,
      changed.replace second = fault.replace (first.overriddenBy second)) ∧
    (∀ index token, fault.fields.lookup .index = some (.number index) →
      fault.fields.lookup .token = some (.text token) →
      ∀ changes : Changes, changes.Own fault.kind → changes.token = none →
        ((∃ changed, (fault.replace changes).result = .ok changed) ↔
          ∃ c, token = [c] ∧
            (changes.line.getD fault.line).charAt (changes.index.getD index) = .ok c)) ∧
    (item = .fault fault →
      (∀ changes merged, changes.Own fault.kind → fault.Merged changes merged →
        session.build (.replace name changes) = session.build (.make merged)) ∧
      ∀ first made, (session.build (.replace name first)).result = .ok made → ∀ other second,
        (session.step (.build other (.replace name first))).1.build (.replace other second) =
          session.build (.replace name (first.overriddenBy second))) := by
  have wellFormed : fault.WellFormed := reachable.sound.lookup? found fault held
  refine ⟨?_, ?_, Fault.replace_none wellFormed, ?_, ?_, ?_⟩
  · intro changes own
    exact ⟨fault.amend changes, fun _ => Fault.merged_iff, Fault.replace_of_own own⟩
  · intro changes foreign
    obtain ⟨field, first, refused⟩ := Fault.replace_of_not_own foreign
    obtain ⟨given, lacks⟩ := Changes.foreign?_eq_some first
    exact ⟨field, given, lacks, refused⟩
  · intro first changed made second
    exact Fault.replace_replace made second
  · intro index token has_index has_token changes own token_kept
    exact Fault.exists_replace_eq_ok_iff has_index has_token own token_kept
  · rintro rfl
    refine ⟨?_, ?_⟩
    · intro changes merged own overridden
      rw [Fault.merged_iff.mp overridden]
      exact build_replace_eq_build_make found own
    · intro first made accepted other second
      exact build_replace_replace found accepted other second

/-- The token of `a#` is moved behind a wider character, together with the line.  It cannot be moved
to the start of its own line.  To move it there in another line takes one build or two. -/
theorem reachable_replace_moved :
    ∃ session : Session, session.Reachable ∧
      session.lookup? "token" = some (.fault (.unexpectedToken "a#" 1 "#")) ∧
      ((Fault.unexpectedToken "a#" 1 "#").replace {}).result =
        .ok (.unexpectedToken "a#" 1 "#") ∧
      (∃ changed, ((Fault.unexpectedToken "a#" 1 "#").replace
        { line := some "é#", index := some 2 }).result = .ok changed) ∧
      (¬ ∃ changed, ((Fault.unexpectedToken "a#" 1 "#").replace
        { index := some 0 }).result = .ok changed) ∧
      (session.step (.build "moved" (.replace "token" { line := some "##" }))).1.build
          (.replace "moved" { index := some 0 }) =
        session.build (.replace "token" { line := some "##", index := some 0 }) := by
  have run : ∃ session : Session, session.Reachable ∧
      session.lookup? "token" = some (.fault (.unexpectedToken "a#" 1 "#")) :=
    ⟨_, ⟨[.build "token" (.find (.unexpectedToken "a#" 1))], rfl⟩, rfl⟩
  obtain ⟨session, reachable, found⟩ := run
  obtain ⟨-, -, unchanged, -, moved, built⟩ :=
    reachable_replace reachable found (List.mem_singleton.mpr rfl)
  have own (changes : Changes) (first : changes.foreign? .unexpectedToken = none) :
      changes.Own .unexpectedToken := Changes.foreign?_eq_none_iff.mp first
  refine ⟨session, reachable, found, unchanged, ?_, ?_, ?_⟩
  · exact (moved 1 "#" rfl rfl { line := some "é#", index := some 2 } (own _ rfl) rfl).mpr
      ⟨.ofChar '#', rfl, rfl⟩
  · rw [moved 1 "#" rfl rfl { index := some 0 } (own _ rfl) rfl]
    rintro ⟨c, token_eq, read⟩
    have first : Text.charAt "a#" 0 = .ok (.ofChar 'a') := rfl
    obtain rfl : CodePoint.ofChar 'a' = c := Except.ok.inj (first.symm.trans read)
    exact absurd token_eq (by decide)
  · obtain ⟨changed, accepted⟩ := (moved 1 "#" rfl rfl { line := some "##" } (own _ rfl) rfl).mpr
      ⟨.ofChar '#', rfl, rfl⟩
    exact (built rfl).2 { line := some "##" } (.fault changed)
      ((build_replace_result_eq_ok_iff found).mpr ⟨changed, accepted, rfl⟩) "moved"
      { index := some 0 }

end Session

end ScanFault
