import ScanFault.Proofs.Fault.Containing
import ScanFault.Proofs.Fault.Deriving
import ScanFault.Proofs.Fault.Rendering

/-!
# What a message tells of a request

A scanner asks for the size of a text, a character, a cut, a fault or a rendering, and each request
may be refused for a broken precondition.  The message of the refusal shows some values under
labels.  They are values of the request, and the label says which (`Request.Fails.quotes`).  Under
`string` a message shows a text or the line of a fault, since a fault is checked and rendered by
asking for characters and cuts of its line.

A message also tells the violation (`Violation.message_injective`).  So two requests that are
refused with one message have failed the same check and agree in every value that the check looked
at.  The main statement is `Request.told_by_message`.
-/

namespace ScanFault

/-! ## Requests -/

/-- The labels under which messages show a field of a fault. -/
def Field.shownAs : Field → List String
  | line => ["string", "line", "self.line"]
  | index => ["index"]
  | token => ["token"]
  | escape => ["self.escape"]
  | ident => ["self.ident"]
  | _ => []

/-- Fields under all the labels that messages have for them. -/
def Field.shown (fields : List (Field × Datum)) : List (String × Datum) :=
  fields.flatMap fun (field, datum) => field.shownAs.map fun label => (label, datum)

/-- A label is the label of one field. -/
theorem Field.eq_of_shownAs {first second : Field} {label : String}
    (shown_first : label ∈ first.shownAs) (shown_second : label ∈ second.shownAs) :
    first = second := by
  cases first <;> cases second <;> simp_all [shownAs]

theorem Datum.lookup_labels (labels : List String) (datum : Datum) (label : String) :
    (labels.map fun label => (label, datum)).lookup label =
      if label ∈ labels then some datum else none := by
  induction labels with
  | nil => rfl
  | cons first labels ih =>
    by_cases same : label = first
    · simp [same]
    · rw [List.map_cons, List.lookup_cons, beq_false_of_ne same]
      simpa [same] using ih

/-- Under the labels of a field stands the field. -/
theorem Field.lookup_shown {fields : List (Field × Datum)} {field : Field} {datum : Datum}
    {label : String} (shown_as : label ∈ field.shownAs) (found : fields.lookup field = some datum) :
    (Field.shown fields).lookup label = some datum := by
  induction fields with
  | nil => cases found
  | cons entry fields ih =>
    obtain ⟨other, value⟩ := entry
    rw [shown, List.flatMap_cons, List.lookup_append, Datum.lookup_labels]
    by_cases same : field = other
    · subst same
      rw [List.lookup_cons_self] at found
      rw [if_pos shown_as, Option.some_or, found]
    · rw [List.lookup_cons, beq_false_of_ne same] at found
      rw [if_neg fun shown_other => same (eq_of_shownAs shown_as shown_other), Option.none_or]
      exact ih found

/-- The data that a finding says, under the names of their fields. -/
def Finding.fields : Finding → List (Field × Datum)
  | expectedIdentifier line index => (Fault.expectedIdentifier line index).fields
  | expectedToken line index tokens => (Fault.expectedToken line index tokens).fields
  | expectedEscape line index replace =>
      [(.line, .text line), (.index, .number index), (.replace, .text replace)]
  | unexpectedToken line index => [(.line, .text line), (.index, .number index)]
  | invalidEscape line escape => (Fault.invalidEscape line escape).fields
  | invalidIdentifier line ident isValid => (Fault.invalidIdentifier line ident isValid).fields

/-- What a scanner may ask for. -/
inductive Request where
  /-- The size of a text. -/
  | size (text : Text)
  /-- The character at an index. -/
  | charAt (text : Text) (index : Int)
  /-- The cut at an index. -/
  | cutAt (text : Text) (index : Int)
  /-- The fault of a finding. -/
  | find (finding : Finding)
  /-- A fault with all fields given. -/
  | make (fault : Fault)
  /-- The rendering of a fault.  There are no faults but well-formed ones. -/
  | render (fault : Fault) (wellFormed : fault.WellFormed)

namespace Request

/-- The request is refused for this broken precondition.  A predicate that fails breaks none, and a
fault whose refusal cannot be written is refused for that. -/
def Fails (broken : Violation) : Request → Prop
  | size text => text.size = .error broken
  | charAt text index => text.charAt index = .error broken
  | cutAt text index => text.cutAt index = .error broken
  | find finding => finding.toFault.result = .error (.violation broken)
  | make fault => fault.accept.result = .error (.violation broken)
  | render fault _ => fault.render = .error broken

/-- The values of a request, under the labels that messages have for them. -/
def values : Request → List (String × Datum)
  | size text => [("string", .text text)]
  | charAt text index
  | cutAt text index => [("index", .number index), ("string", .text text)]
  | find finding => Field.shown finding.fields
  | make fault
  | render fault _ => Field.shown fault.fields

end Request

/-! ## Values that a message shows -/

/-- The values of a message are found among these, each under its label. -/
def Violation.Quotes (broken : Violation) (values : List (String × Datum)) : Prop :=
  ∀ entry ∈ broken.values, values.lookup entry.1 = some entry.2

section Offsets

variable {text : Text} {index : Int} {values : List (String × Datum)} {broken : Violation}

theorem Violation.quotes_of_charAt_eq_error (refused : text.charAt index = .error broken)
    (string_eq : values.lookup "string" = some (.text text))
    (index_eq : values.lookup "index" = some (.number index)) : broken.Quotes values := by
  rcases Text.charAt_eq_error refused with rfl | rfl | rfl <;>
    simp [Violation.Quotes, Violation.values, string_eq, index_eq]

theorem Violation.quotes_of_cutAt_eq_error (refused : text.cutAt index = .error broken)
    (string_eq : values.lookup "string" = some (.text text))
    (index_eq : values.lookup "index" = some (.number index)) : broken.Quotes values := by
  rcases Text.cutAt_eq_error refused with rfl | rfl | rfl <;>
    simp [Violation.Quotes, Violation.values, string_eq, index_eq]

end Offsets

section Fields

variable {text : Text} {index : Int} {fields : List (Field × Datum)} {broken : Violation}

/-- What is read from a line shows the line as a text. -/
theorem Violation.quotes_shown_of_charAt_eq_error (refused : text.charAt index = .error broken)
    (line_eq : fields.lookup .line = some (.text text))
    (index_eq : fields.lookup .index = some (.number index)) :
    broken.Quotes (Field.shown fields) :=
  quotes_of_charAt_eq_error refused (Field.lookup_shown (by simp [Field.shownAs]) line_eq)
    (Field.lookup_shown (by simp [Field.shownAs]) index_eq)

namespace Finding

variable {finding : Finding}

theorem OmitsNothing.quotes {fault : Fault} (omits : OmitsNothing text index finding fault)
    (refused : fault.accept.result = .error (.violation broken)) :
    broken.Quotes (Field.shown fault.fields) := by
  have line_eq : fault.fields.lookup .line = some (.text text) := by cases omits <;> rfl
  have index_eq : fault.fields.lookup .index = some (.number index) := by cases omits <;> rfl
  obtain ⟨unplaced, refused_index, refusal_eq⟩ := omits.exists_checkIndex_eq_error refused
  obtain ⟨-, rfl⟩ := Violation.refusal_eq_violation_iff.mp refusal_eq.symm
  rw [Fault.checkIndex_eq_error refused_index]
  split
  next =>
    simpa [Violation.Quotes, Violation.values] using
      Field.lookup_shown (by simp [Field.shownAs]) line_eq
  next =>
    simpa [Violation.Quotes, Violation.values] using
      And.intro (Field.lookup_shown (by simp [Field.shownAs]) index_eq)
        (Field.lookup_shown (by simp [Field.shownAs]) line_eq)

/-- A wrong token is shown.  Otherwise the reading of the character shows what it reads from. -/
theorem OmitsToken.quotes_given {given : Text → Fault} {token : Text}
    (omits : OmitsToken text index finding given)
    (refused : (given token).accept.result = .error (.violation broken)) :
    broken.Quotes (Field.shown (given token).fields) := by
  have line_eq : (given token).fields.lookup .line = some (.text text) := by cases omits <;> rfl
  have index_eq : (given token).fields.lookup .index = some (.number index) := by
    cases omits <;> rfl
  rcases omits.accept_eq_error refused with ⟨unread, refused_read, refusal_eq⟩ | refusal_eq
  · obtain ⟨-, rfl⟩ := Violation.refusal_eq_violation_iff.mp refusal_eq.symm
    exact Violation.quotes_shown_of_charAt_eq_error refused_read line_eq index_eq
  · obtain ⟨-, rfl⟩ := Violation.refusal_eq_violation_iff.mp refusal_eq.symm
    simpa [Violation.Quotes, Violation.values] using
      And.intro (Field.lookup_shown (by simp [Field.shownAs]) (omits.token_eq token))
        (Field.lookup_shown (by simp [Field.shownAs]) index_eq)

theorem OmitsToken.quotes_found {given : Text → Fault}
    (omits : OmitsToken text index finding given)
    (refused : finding.toFault.result = .error (.violation broken)) :
    broken.Quotes (Field.shown finding.fields) := by
  obtain ⟨unread, refused_read, refusal_eq⟩ := omits.exists_charAt_eq_error refused
  obtain ⟨-, rfl⟩ := Violation.refusal_eq_violation_iff.mp refusal_eq.symm
  exact Violation.quotes_shown_of_charAt_eq_error refused_read (by cases omits <;> rfl)
    (by cases omits <;> rfl)

end Finding

/-- The refusal of a given fault shows fields of the fault. -/
theorem Fault.quotes_of_accept_eq_error {fault : Fault}
    (refused : fault.accept.result = .error (.violation broken)) :
    broken.Quotes (Field.shown fault.fields) := by
  cases fault with
  | expectedIdentifier line index => exact Finding.OmitsNothing.expectedIdentifier.quotes refused
  | expectedToken line index tokens =>
    exact (Finding.OmitsNothing.expectedToken tokens).quotes refused
  | expectedEscape line index replace token =>
    exact (Finding.OmitsToken.expectedEscape replace).quotes_given refused
  | unexpectedToken line index token =>
    exact Finding.OmitsToken.unexpectedToken.quotes_given refused
  | invalidEscape line escape =>
    cases Finding.invalidEscape_eq_error refused
    rw [Violation.Quotes, Violation.values, List.forall_mem_cons, List.forall_mem_singleton]
    exact ⟨rfl, rfl⟩
  | invalidIdentifier line ident isValid =>
    rcases (accept_disciplined line ident isValid).violation_eq refused with rfl | rfl
    · rw [Violation.Quotes, Violation.values, List.forall_mem_cons, List.forall_mem_singleton]
      exact ⟨rfl, rfl⟩
    · rw [Violation.Quotes, Violation.values, List.forall_mem_singleton]
      rfl

/-- The refusal of a finding shows what the finding says. -/
theorem Finding.quotes_of_toFault_eq_error {finding : Finding}
    (refused : finding.toFault.result = .error (.violation broken)) :
    broken.Quotes (Field.shown finding.fields) := by
  cases finding with
  | expectedIdentifier line index => exact Fault.quotes_of_accept_eq_error refused
  | expectedToken line index tokens => exact Fault.quotes_of_accept_eq_error refused
  | expectedEscape line index replace =>
    exact (OmitsToken.expectedEscape replace).quotes_found refused
  | unexpectedToken line index => exact OmitsToken.unexpectedToken.quotes_found refused
  | invalidEscape line escape => exact Fault.quotes_of_accept_eq_error refused
  | invalidIdentifier line ident isValid => exact Fault.quotes_of_accept_eq_error refused

/-- A fault is not rendered when its index lies inside a character, and the refusal shows the index
and the line. -/
theorem Fault.quotes_of_render_eq_error {fault : Fault} (wellFormed : fault.WellFormed)
    (refused : fault.render = .error broken) : broken.Quotes (Field.shown fault.fields) := by
  obtain ⟨index, index_eq, rfl⟩ := render_eq_error wellFormed refused
  have line_eq : fault.fields.lookup .line = some (.text fault.line) := by cases fault <;> rfl
  simpa [Violation.Quotes, Violation.values] using
    And.intro (Field.lookup_shown (by simp [Field.shownAs]) index_eq)
      (Field.lookup_shown (by simp [Field.shownAs]) line_eq)

end Fields

/-! ## Refused requests -/

/-- A character is refused with its text and its index, or with a text that has no encoding. -/
theorem Text.eq_of_charAt_message_eq {text text' : Text} {index index' : Int}
    {broken broken' : Violation} (refused : text.charAt index = .error broken)
    (refused' : text'.charAt index' = .error broken') (same : broken.message = broken'.message) :
    text = text' ∧ (index = index' ∨ broken = .unencodable text) := by
  obtain rfl := Violation.message_injective same
  rcases charAt_eq_error refused with rfl | rfl | rfl <;>
    rcases charAt_eq_error refused' with same | same | same <;> cases same <;> simp

theorem Text.eq_of_cutAt_message_eq {text text' : Text} {index index' : Int}
    {broken broken' : Violation} (refused : text.cutAt index = .error broken)
    (refused' : text'.cutAt index' = .error broken') (same : broken.message = broken'.message) :
    text = text' ∧ (index = index' ∨ broken = .unencodable text) := by
  obtain rfl := Violation.message_injective same
  rcases cutAt_eq_error refused with rfl | rfl | rfl <;>
    rcases cutAt_eq_error refused' with same | same | same <;> cases same <;> simp

namespace Request

variable {broken : Violation}

/-- A refused request is refused for values of its own. -/
theorem Fails.quotes {request : Request} (fails : request.Fails broken) :
    broken.Quotes request.values := by
  cases request with
  | size text =>
    obtain rfl := Text.size_eq_error fails
    simp [Violation.Quotes, Violation.values, values]
  | charAt text index => exact Violation.quotes_of_charAt_eq_error fails rfl rfl
  | cutAt text index => exact Violation.quotes_of_cutAt_eq_error fails rfl rfl
  | find finding => exact Finding.quotes_of_toFault_eq_error fails
  | make fault => exact Fault.quotes_of_accept_eq_error fails
  | render fault wellFormed => exact Fault.quotes_of_render_eq_error wellFormed fails

/-- Equal messages are those of one violation, and both requests have the values that it shows. -/
theorem Fails.eq_of_message_eq {first second : Request} {broken broken' : Violation}
    (fails : first.Fails broken) (fails' : second.Fails broken')
    (same : broken.message = broken'.message) :
    broken = broken' ∧ broken.Quotes first.values ∧ broken.Quotes second.values := by
  obtain rfl := Violation.message_injective same
  exact ⟨rfl, fails.quotes, fails'.quotes⟩

/-- Two requests that are refused with one message have failed the same check of the ten.  The
messages show the same values, and either request has them, each under its label.  Two refused
characters of one message, or two refused cuts, were asked of the same text, and at the same index
unless the text has no encoding. -/
theorem told_by_message :
    (∀ first second broken broken', Fails broken first → Fails broken' second →
      broken.message = broken'.message →
      broken.check = broken'.check ∧ broken.values = broken'.values ∧
      ∀ label datum, (label, datum) ∈ broken.values →
        first.values.lookup label = some datum ∧ second.values.lookup label = some datum) ∧
    (∀ text text' index index' broken broken', Fails broken (.charAt text index) →
      Fails broken' (.charAt text' index') → broken.message = broken'.message →
      text = text' ∧ (index = index' ∨ broken = .unencodable text)) ∧
    ∀ text text' index index' broken broken', Fails broken (.cutAt text index) →
      Fails broken' (.cutAt text' index') → broken.message = broken'.message →
      text = text' ∧ (index = index' ∨ broken = .unencodable text) := by
  refine ⟨?_, ?_, ?_⟩
  · intro first second broken broken' fails fails' same
    obtain ⟨rfl, quotes, quotes'⟩ := fails.eq_of_message_eq fails' same
    exact ⟨rfl, rfl, fun label datum shown => ⟨quotes _ shown, quotes' _ shown⟩⟩
  · intro text text' index index' broken broken' fails fails' same
    exact Text.eq_of_charAt_message_eq fails fails' same
  · intro text text' index index' broken broken' fails fails' same
    exact Text.eq_of_cutAt_message_eq fails fails' same

/-- At 1 the text `é` has no character, and whoever asks for one or for a fault there is told the
same.  Nor has it a cut there, and whoever asks for it or for a rendering with a mark there is told
the same.  A surrogate has no character at 0 and none at 5, and the message is that of its
encoding. -/
theorem told_by_message_wide :
    ∃ wellFormed : (Fault.expectedIdentifier "é" 1).WellFormed,
      Fails (.characterInside 1 "é") (.charAt "é" 1) ∧
      Fails (.characterInside 1 "é") (.find (.unexpectedToken "é" 1)) ∧
      (values (.charAt "é" 1)).lookup "index" =
        (values (.find (.unexpectedToken "é" 1))).lookup "index" ∧
      Fails (.cutInside 1 "é") (.cutAt "é" 1) ∧
      Fails (.cutInside 1 "é") (.render (.expectedIdentifier "é" 1) wellFormed) ∧
      (values (.cutAt "é" 1)).lookup "string" =
        (values (.render (.expectedIdentifier "é" 1) wellFormed)).lookup "string" ∧
      ∃ c : CodePoint, c.isSurrogate = true ∧ Fails (.unencodable [c]) (.charAt [c] 0) ∧
        Fails (.unencodable [c]) (.charAt [c] 5) := by
  have wellFormed : (Fault.expectedIdentifier "é" 1).WellFormed :=
    ⟨by decide, by decide, by decide⟩
  have read : Fails (.characterInside 1 "é") (.charAt "é" 1) := rfl
  have writable : (Violation.characterInside 1 "é").Writable :=
    (Violation.writable_iff_of_index?_eq rfl).mpr (Datum.writable_digit (by decide))
  have found : Fails (.characterInside 1 "é") (.find (.unexpectedToken "é" 1)) :=
    Finding.OmitsToken.unexpectedToken.toFault_eq_error_iff.mpr
      (Text.char_eq_error_iff.mpr ⟨_, read, (Violation.refusal_of_writable writable).symm⟩)
  have cut : Fails (.cutInside 1 "é") (.cutAt "é" 1) := rfl
  have rendered : Fails (.cutInside 1 "é") (.render (.expectedIdentifier "é" 1) wellFormed) := rfl
  obtain ⟨-, -, of_read⟩ := told_by_message.1 _ _ _ _ read found rfl
  obtain ⟨-, -, of_cut⟩ := told_by_message.1 _ _ _ _ cut rendered rfl
  obtain ⟨index_eq, index_eq'⟩ := of_read "index" (.number 1) (.head _)
  obtain ⟨string_eq, string_eq'⟩ := of_cut "string" (.text "é") (.tail _ (.head _))
  exact ⟨wellFormed, read, found, index_eq.trans index_eq'.symm, cut, rendered,
    string_eq.trans string_eq'.symm, ⟨0xDC80, by omega⟩, rfl, rfl, rfl⟩

end Request

end ScanFault
