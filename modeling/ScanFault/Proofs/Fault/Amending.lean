import ScanFault.Fault.WellFormed

/-!
# Changed faults

A fault with changes has the new value of every field that is changed and its own value of every
other (`Fault.Merged`).  The token and the predicate are fields like the rest, so they are kept when
only the line or the index is changed, and the token is not read from the line again.
`Fault.merged_iff` says that `Fault.amend` makes the one fault with these fields.

A fault is changed in fields of its own (`Changes.Own`).  Any other change is refused without a
check (`Fault.replace_of_not_own`).  To change nothing leaves a fault as it is, and changes after
changes are changes (`Fault.amend_none`, `Fault.replace_replace`).  All of this goes through the
checks, since a changed fault is accepted like any other.
-/

namespace ScanFault

namespace Changes

/-! ## Fields with new values -/

/-- The new value of a field, if the changes have one. -/
def datum? (changes : Changes) : Field → Option Datum
  | .line => changes.line.map .text
  | .index => changes.index.map .number
  | .tokens => changes.tokens.map .text
  | .replace => changes.replace.map .text
  | .token => changes.token.map .text
  | .escape => changes.escape.map .text
  | .ident => changes.ident.map .text
  | .isValid | .fault | .other _ => none

/-- The changes are to fields of faults of the kind. -/
def Own (changes : Changes) (kind : Kind) : Prop :=
  ∀ field, changes.gives field = true → kind.has field = true

section Own

variable {changes first second : Changes} {kind : Kind} {field : Field}

theorem own_none (kind : Kind) : Own {} kind := by
  intro field given
  cases field <;> cases given

theorem mem_known_of_gives (given : changes.gives field = true) : field ∈ Field.known := by
  cases field with
  | fault => cases given
  | other name => cases given
  | _ => decide

theorem foreign?_eq_none_iff : changes.foreign? kind = none ↔ changes.Own kind := by
  rw [foreign?, List.find?_eq_none]
  constructor
  · intro none_foreign field given
    have own := none_foreign field (mem_known_of_gives given)
    rw [given, Bool.true_and, Bool.not_eq_true', Bool.not_eq_false] at own
    exact own
  · intro own field _ foreign
    obtain ⟨given, lacks⟩ := Bool.and_eq_true_iff.mp foreign
    rw [own field given] at lacks
    cases lacks

theorem foreign?_eq_some (foreign : changes.foreign? kind = some field) :
    changes.gives field = true ∧ kind.has field = false := by
  have found := List.find?_some (p := fun field => changes.gives field && !kind.has field) foreign
  obtain ⟨given, lacks⟩ := Bool.and_eq_true_iff.mp found
  exact ⟨given, (Bool.not_eq_true' _).mp lacks⟩

theorem gives_overriddenBy (first second : Changes) (field : Field) :
    (first.overriddenBy second).gives field = (second.gives field || first.gives field) := by
  cases field <;> simp [overriddenBy, gives]

/-- What is foreign among all changes is foreign among the later ones, if the earlier ones are
not. -/
theorem foreign?_overriddenBy (own : first.Own kind) :
    (first.overriddenBy second).foreign? kind = second.foreign? kind := by
  refine congrArg (List.find? · Field.known) (funext fun field => ?_)
  rw [gives_overriddenBy]
  cases given : first.gives field with
  | false => rw [Bool.or_false]
  | true => rw [own field given, Bool.not_true, Bool.and_false, Bool.and_false]

end Own

end Changes

namespace Fault

/-! ## Fields -/

/-- The fault `merged` is `fault` with the fields in `changes` overridden. -/
structure Merged (fault : Fault) (changes : Changes) (merged : Fault) : Prop where
  /-- The kind stays. -/
  kind_eq : merged.kind = fault.kind
  /-- A datum is the new one of its field, if there is one. -/
  fields_eq : merged.fields =
    fault.fields.map fun (field, datum) => (field, (changes.datum? field).getD datum)
  /-- So is the predicate. -/
  predicate?_eq : merged.predicate? = fault.predicate?.map changes.isValid.getD

/-- A fault is determined by its kind, its data and its predicate. -/
theorem eq_of_fields_eq {a b : Fault} (kind_eq : a.kind = b.kind) (fields_eq : a.fields = b.fields)
    (predicate?_eq : a.predicate? = b.predicate?) : a = b := by
  cases a with
  | expectedIdentifier line index =>
    cases b with
    | expectedIdentifier line' index' =>
      cases fields_eq
      rfl
    | _ => cases kind_eq
  | expectedToken line index tokens =>
    cases b with
    | expectedToken line' index' tokens' =>
      cases fields_eq
      rfl
    | _ => cases kind_eq
  | expectedEscape line index replace token =>
    cases b with
    | expectedEscape line' index' replace' token' =>
      cases fields_eq
      rfl
    | _ => cases kind_eq
  | unexpectedToken line index token =>
    cases b with
    | unexpectedToken line' index' token' =>
      cases fields_eq
      rfl
    | _ => cases kind_eq
  | invalidEscape line escape =>
    cases b with
    | invalidEscape line' escape' =>
      cases fields_eq
      rfl
    | _ => cases kind_eq
  | invalidIdentifier line ident isValid =>
    cases b with
    | invalidIdentifier line' ident' isValid' =>
      cases fields_eq
      cases predicate?_eq
      rfl
    | _ => cases kind_eq

theorem merged_amend (fault : Fault) (changes : Changes) :
    fault.Merged changes (fault.amend changes) := by
  cases fault <;> exact ⟨rfl, by simp [amend, fields, Changes.datum?], rfl⟩

/-- Exactly one fault has the fields overridden. -/
theorem merged_iff {fault merged : Fault} {changes : Changes} :
    fault.Merged changes merged ↔ merged = fault.amend changes := by
  constructor
  · intro h
    have amended := fault.merged_amend changes
    exact eq_of_fields_eq (h.kind_eq.trans amended.kind_eq.symm)
      (h.fields_eq.trans amended.fields_eq.symm)
      (h.predicate?_eq.trans amended.predicate?_eq.symm)
  · rintro rfl
    exact fault.merged_amend changes

/-! ## Laws -/

theorem amend_none (fault : Fault) : fault.amend {} = fault := by
  cases fault <;> rfl

/-- Later changes override earlier ones. -/
theorem amend_amend (fault : Fault) (first second : Changes) :
    (fault.amend first).amend second = fault.amend (first.overriddenBy second) := by
  cases fault <;> simp [amend, Changes.overriddenBy, Option.getD_or]

theorem kind_amend (fault : Fault) (changes : Changes) : (fault.amend changes).kind = fault.kind :=
  (fault.merged_amend changes).kind_eq

section Replace

variable {fault changed : Fault} {changes first : Changes}

theorem replace_of_own (own : changes.Own fault.kind) :
    fault.replace changes = (fault.amend changes).accept := by
  rw [replace, Changes.foreign?_eq_none_iff.mpr own]

/-- A change to a field that the fault does not have is refused, and nothing is checked or
called. -/
theorem replace_of_not_own (foreign : ¬ changes.Own fault.kind) :
    ∃ field, changes.foreign? fault.kind = some field ∧
      fault.replace changes = .refuse (.unexpectedField fault.kind field) := by
  cases first : changes.foreign? fault.kind with
  | none => exact absurd (Changes.foreign?_eq_none_iff.mp first) foreign
  | some field =>
    refine ⟨field, rfl, ?_⟩
    rw [replace, first]

theorem replace_result_eq_ok_iff :
    (fault.replace changes).result = .ok changed ↔
      changes.Own fault.kind ∧ (fault.amend changes).WellFormed ∧
        changed = fault.amend changes := by
  by_cases own : changes.Own fault.kind
  · rw [replace_of_own own, accept_result_eq_ok_iff, and_iff_right own]
  · obtain ⟨field, -, refused⟩ := replace_of_not_own own
    rw [refused]
    exact iff_of_false (fun h => nomatch h) fun h => own h.1

/-- A well-formed fault passes its checks again. -/
theorem replace_none (wellFormed : fault.WellFormed) : (fault.replace {}).result = .ok fault := by
  refine replace_result_eq_ok_iff.mpr ⟨Changes.own_none _, ?_, fault.amend_none.symm⟩
  rwa [amend_none]

/-- Changes that were accepted and further changes end as all of them at once, with the same calls
and the same refusal. -/
theorem replace_replace (made : (fault.replace first).result = .ok changed) (second : Changes) :
    changed.replace second = fault.replace (first.overriddenBy second) := by
  obtain ⟨own, -, rfl⟩ := replace_result_eq_ok_iff.mp made
  rw [replace, replace, kind_amend, amend_amend, Changes.foreign?_overriddenBy own]

end Replace

/-! ## Tokens -/

theorem exists_replace_eq_ok_iff_wellFormed {fault : Fault} {changes : Changes}
    (own : changes.Own fault.kind) :
    (∃ changed, (fault.replace changes).result = .ok changed) ↔
      (fault.amend changes).WellFormed := by
  constructor
  · rintro ⟨changed, made⟩
    exact (replace_result_eq_ok_iff.mp made).2.1
  · intro wellFormed
    exact ⟨fault.amend changes, replace_result_eq_ok_iff.mpr ⟨own, wellFormed, rfl⟩⟩

/-- A fault with a token can be moved to another line or index exactly where the character is the
token that it has. -/
theorem exists_replace_eq_ok_iff {fault : Fault} {index : Int} {token : Text}
    (has_index : fault.fields.lookup .index = some (.number index))
    (has_token : fault.fields.lookup .token = some (.text token)) {changes : Changes}
    (own : changes.Own fault.kind) (token_kept : changes.token = none) :
    (∃ changed, (fault.replace changes).result = .ok changed) ↔
      ∃ c, token = [c] ∧
        (changes.line.getD fault.line).charAt (changes.index.getD index) = .ok c := by
  rw [exists_replace_eq_ok_iff_wellFormed own]
  cases fault with
  | expectedEscape line index replace token =>
    cases has_index
    cases has_token
    rw [amend, token_kept]
    exact wellFormed_expectedEscape_iff
  | unexpectedToken line index token =>
    cases has_index
    cases has_token
    rw [amend, token_kept]
    exact wellFormed_unexpectedToken_iff
  | expectedIdentifier line index => cases has_token
  | expectedToken line index tokens => cases has_token
  | invalidEscape line escape => cases has_token
  | invalidIdentifier line ident isValid => cases has_token

end Fault

end ScanFault
