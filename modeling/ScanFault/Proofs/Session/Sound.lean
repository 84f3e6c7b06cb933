import ScanFault.Proofs.Session.Refusing
import ScanFault.Proofs.Session.Separated

/-!
# Every fault of a session is well-formed

A fault is checked when it is made and never again: a duplicate takes both faults of a report as
they are, and a report takes another fault without a look at it.  Still no session comes to hold a
fault that its line does not bear out.  The invariant is `Session.Sound`.  It speaks of the faults
under names and of both faults of every intact report in the store, also of reports that no name
leads to any more.

A report is not kept from being altered, and an altered one may have anything for its current fault,
or nothing (`Session.reachable_bare`).  In a session without such a change every name is bound to an
item (`Session.Intact`), and every item is sound.

The main statement is `Session.reachable_faults_wellFormed`.
-/

namespace ScanFault

/-! ## Sound items -/

/-- Every fault that the item holds is well-formed. -/
def Item.Sound (item : Item) : Prop := ∀ fault ∈ item.faults, fault.WellFormed

theorem Item.sound_fault_iff {fault : Fault} : (Item.fault fault).Sound ↔ fault.WellFormed :=
  List.forall_mem_singleton

theorem Item.sound_report_iff {report : Report} :
    (Item.report report).Sound ↔ report.fault.WellFormed ∧ report.origin.WellFormed := by
  rw [Item.Sound, Item.faults, List.forall_mem_cons, List.forall_mem_singleton]

/-- The token of a well-formed fault is the character at its index. -/
theorem Fault.WellFormed.token_eq {fault : Fault} (wellFormed : fault.WellFormed) {token : Text}
    (has_token : fault.fields.lookup .token = some (.text token)) :
    ∃ index c, fault.fields.lookup .index = some (.number index) ∧
      fault.line.charAt index = .ok c ∧ token = [c] := by
  cases fault with
  | expectedIdentifier line index => cases has_token
  | expectedToken line index tokens => cases has_token
  | expectedEscape line index replace token =>
    cases has_token
    obtain ⟨c, token_eq, found⟩ := wellFormed_expectedEscape_iff.mp wellFormed
    exact ⟨index, c, rfl, found, token_eq⟩
  | unexpectedToken line index token =>
    cases has_token
    obtain ⟨c, token_eq, found⟩ := wellFormed_unexpectedToken_iff.mp wellFormed
    exact ⟨index, c, rfl, found, token_eq⟩
  | invalidEscape line escape => cases has_token
  | invalidIdentifier line ident isValid => cases has_token

namespace Session

/-! ## Sound sessions -/

/-- Every fault that the session holds is well-formed. -/
structure Sound (session : Session) : Prop where
  /-- The faults under names. -/
  faults : ∀ name fault, session.names.lookup name = some (.fault fault) → fault.WellFormed
  /-- The faults of intact reports. -/
  reports : ∀ report, Stored.intact report ∈ session.reports → (Item.report report).Sound

theorem sound_empty : empty.Sound where
  faults := by
    intro name fault found
    cases found
  reports := by
    intro report found
    cases found

theorem Sound.lookup? {session : Session} (sound : session.Sound) {name : String} {item : Item}
    (found : session.lookup? name = some item) : item.Sound := by
  have found := lookup?_eq_some_iff.mp found
  cases item with
  | fault content =>
    exact Item.sound_fault_iff.mpr (sound.faults name content (bound?_eq_fault_iff.mp found))
  | report content =>
    obtain ⟨location, -, stored⟩ := bound?_eq_report_iff.mp found
    exact sound.reports content (List.mem_of_getElem? stored)

theorem Sound.makes {session : Session} (sound : session.Sound) {item : Item}
    (makes : session.Makes item) : item.Sound := by
  cases makes with
  | fault wellFormed => exact Item.sound_fault_iff.mpr wellFormed
  | report wellFormed => exact Item.sound_report_iff.mpr ⟨wellFormed, wellFormed⟩
  | wrapped found =>
    have wellFormed := Item.sound_fault_iff.mp (sound.lookup? found)
    exact Item.sound_report_iff.mpr ⟨wellFormed, wellFormed⟩
  | duplicate found => exact sound.lookup? found

theorem Sound.bind {session : Session} (sound : session.Sound) (name : String) {bound : Bound}
    (bound_sound : ∀ item, bound.item? = some item → item.Sound) :
    (session.bind name bound).Sound := by
  refine ⟨?_, ?_⟩
  · intro other fault found
    by_cases same : other = name
    · have held := bound?_eq_fault_iff.mpr found
      rw [same, bound?_bind_self] at held
      cases held
      exact Item.sound_fault_iff.mp (bound_sound _ rfl)
    · rw [lookup_names_bind_of_ne session same] at found
      exact sound.faults other fault found
  · intro report found
    cases bound with
    | fault content => exact sound.reports report found
    | lost => exact sound.reports report found
    | report content =>
      rcases List.mem_append.mp found with old | new
      · exact sound.reports report old
      · cases List.mem_singleton.mp new
        exact bound_sound _ rfl

theorem Sound.put {session : Session} (sound : session.Sound) (name : String) {content : Stored}
    (content_sound : ∀ report, content = .intact report → (Item.report report).Sound) :
    (session.put name content).Sound := by
  rw [Session.put]
  split
  next location held =>
    refine ⟨sound.faults, ?_⟩
    intro report found
    rcases List.mem_or_eq_of_mem_set found with old | new
    · exact sound.reports report old
    · exact content_sound report new.symm
  next => exact sound

theorem Sound.step {session : Session} (sound : session.Sound) (step : Step) :
    (session.step step).1.Sound := by
  rcases session.step_cases step with ⟨name, builder, item, -, made, next_eq⟩ |
    ⟨name, builder, -, -, next_eq⟩ | ⟨name, source, report, fault, -, found, given, next_eq⟩ |
    ⟨name, old, content, -, -, altered, next_eq⟩ | next_eq
  · rw [next_eq]
    refine sound.bind name fun other same => ?_
    rw [Bound.item?_toBound, Option.some.injEq] at same
    exact same ▸ sound.makes (build_makes made)
  · rw [next_eq]
    exact sound.bind name fun _ unknown => (nomatch unknown)
  · rw [next_eq]
    refine sound.put name fun other same => ?_
    cases same
    exact Item.sound_report_iff.mpr ⟨Item.sound_fault_iff.mp (sound.lookup? given),
      (Item.sound_report_iff.mp (sound.lookup? found)).2⟩
  · rw [next_eq]
    refine sound.put name fun other same => ?_
    rw [same] at altered
    cases altered
  · rw [next_eq]
    exact sound

theorem Reachable.sound {session : Session} (reachable : session.Reachable) : session.Sound :=
  reachable.induction sound_empty fun _ step sound => sound.step step

/-! ## Sessions without alterations -/

/-- Nothing was altered, and every name is followed. -/
structure Intact (session : Session) : Prop where
  /-- Every name is followed. -/
  names : ∀ name, session.names.lookup name ≠ some .lost
  /-- Every report is intact. -/
  reports : ∀ content ∈ session.reports, ∃ report, content = .intact report

theorem intact_empty : empty.Intact where
  names := by
    intro name found
    cases found
  reports := by
    intro content found
    cases found

/-- A name that is bound leads to an item. -/
theorem Intact.exists_lookup?_eq_some {session : Session} (intact : session.Intact) {name : String}
    {bound : Bound} (found : session.bound? name = some bound) :
    ∃ item, session.lookup? name = some item := by
  cases bound with
  | fault content => exact ⟨.fault content, lookup?_eq_some_iff.mpr found⟩
  | report content =>
    obtain ⟨location, -, stored⟩ := bound?_eq_report_iff.mp found
    obtain ⟨report, rfl⟩ := intact.reports content (List.mem_of_getElem? stored)
    exact ⟨.report report, lookup?_eq_some_iff.mpr found⟩
  | lost =>
    obtain ⟨handle, held, resolved⟩ := Option.bind_eq_some_iff.mp found
    cases handle with
    | fault content => cases resolved
    | report location =>
      obtain ⟨_, -, same⟩ := Option.map_eq_some_iff.mp resolved
      cases same
    | lost => exact absurd held (intact.names name)

/-- Everything that is used in a build is followed. -/
theorem Intact.build_ne_untold {session : Session} (intact : session.Intact) (builder : Builder) :
    (session.build builder).result ≠ .error .untold := by
  intro refused
  generalize named : Refusal.untold = refusal at refused
  cases refuses_of_build_eq_error refused with
  | broken broken => exact broken.refusal_ne_untold named.symm
  | @untold name bound found no_item =>
    obtain ⟨item, held⟩ := intact.exists_lookup?_eq_some found
    cases found.symm.trans (lookup?_eq_some_iff.mp held)
    cases (Bound.item?_toBound item).symm.trans no_item
  | failed failure => cases named
  | unexpected kind field => cases named
  | notAmendable => cases named
  | notPickled failure => cases named
  | unbound absent => cases named
  | misused misuses => cases named

theorem Intact.bind {session : Session} (intact : session.Intact) (name : String) (item : Item) :
    (session.bind name item.toBound).Intact := by
  refine ⟨?_, ?_⟩
  · intro other found
    by_cases same : other = name
    · have held : (session.bind name item.toBound).bound? other = some .lost := by
        rw [bound?, found]
        rfl
      rw [same, bound?_bind_self] at held
      cases item <;> cases held
    · rw [lookup_names_bind_of_ne session same] at found
      exact intact.names other found
  · intro stored found
    cases item with
    | fault content => exact intact.reports stored found
    | report content =>
      rcases List.mem_append.mp found with old | new
      · exact intact.reports stored old
      · exact ⟨content, List.mem_singleton.mp new⟩

theorem Intact.put {session : Session} (intact : session.Intact) (name : String)
    (report : Report) : (session.put name (.intact report)).Intact := by
  rw [Session.put]
  split
  next location held =>
    refine ⟨intact.names, ?_⟩
    intro stored found
    rcases List.mem_or_eq_of_mem_set found with old | new
    · exact intact.reports stored old
    · exact ⟨report, new⟩
  next => exact intact

theorem Intact.step {session : Session} (intact : session.Intact) {step : Step}
    (unaltered : ∀ name, ¬ session.Alters name step) : (session.step step).1.Intact := by
  rcases session.step_cases step with ⟨name, builder, item, -, -, next_eq⟩ |
    ⟨name, builder, -, untold, -⟩ | ⟨name, source, report, fault, -, -, -, next_eq⟩ |
    ⟨name, old, content, alters, -⟩ | next_eq
  · rw [next_eq]
    exact intact.bind name item
  · exact absurd untold (intact.build_ne_untold builder)
  · rw [next_eq]
    exact intact.put name _
  · exact absurd alters (unaltered name)
  · rw [next_eq]
    exact intact

/-! ## Faults of reachable sessions -/

/-- A report is not wrapped again. -/
theorem wrapBound_report {session : Session} {name : String} {content : Stored}
    (found : session.bound? name = some (.report content)) :
    (session.build (.wrapBound name)).result = .error (.notAFault Report.typeName) := by
  rw [build, bound_eq_ok_iff.mpr found]
  cases content <;> rfl

/-- A report that is built on the way is not wrapped again. -/
theorem wrapBuilt_report {session : Session} {builder : Builder} {report : Report}
    (made : (session.build builder).result = .ok (.report report)) :
    (session.build (.wrapBuilt builder)).result = .error (.notAFault Report.typeName) := by
  rw [build, Attempt.bind_of_ok made]
  rfl

/-- A name for an item goes on to lead to one, unless the item is altered or the name is bound to
something that is not followed. -/
theorem exists_lookup?_step {session : Session} (separated : session.Separated) {name : String}
    {item : Item} (found : session.lookup? name = some item) {step : Step}
    (unaltered : ¬ session.Alters name step)
    (followed : ∀ builder, step = .build name builder →
      (session.build builder).result ≠ .error .untold) :
    ∃ next, (session.step step).1.lookup? name = some next := by
  have elsewhere {next : Session} (same : next.bound? name = session.bound? name) :
      ∃ item, next.lookup? name = some item := by
    rw [lookup?, same]
    exact ⟨item, found⟩
  rcases session.step_cases step with ⟨other, builder, built, -, -, next_eq⟩ |
    ⟨other, builder, step_eq, untold, next_eq⟩ |
    ⟨other, source, report, fault, -, reported, -, next_eq⟩ |
    ⟨other, old, content, alters, -, -, next_eq⟩ | next_eq
  · rw [next_eq]
    by_cases same : name = other
    · rw [same, lookup?_bind_self]
      exact ⟨built, rfl⟩
    · exact elsewhere (bound?_bind_of_ne separated.closed same built.toBound)
  · rw [next_eq]
    by_cases same : name = other
    · rw [← same] at step_eq
      exact absurd untold (followed builder step_eq)
    · exact elsewhere (bound?_bind_of_ne separated.closed same .lost)
  · rw [next_eq]
    by_cases same : name = other
    · rw [same, lookup?_put_self reported]
      exact ⟨_, rfl⟩
    · exact elsewhere (bound?_put_of_ne separated same _)
  · rw [next_eq]
    by_cases same : name = other
    · rw [← same] at alters
      exact absurd alters unaltered
    · exact elsewhere (bound?_put_of_ne separated same content)
  · rw [next_eq]
    exact ⟨item, found⟩

end Session

end ScanFault
