import ScanFault.Proofs.Text.Printable
import ScanFault.Proofs.Violation.Message

/-!
# Literal forms and messages are printable

What is shown of an item or said of a violation is put together from names, rules and labels, which
are printable, and from data.  The data may be texts with control characters, line breaks or
surrogates, but they are quoted, and a quoted text is printable (`Text.printable_quoted`).  So every
literal form and every message can stand on one line and has an encoding, also when it is about a
text that has none.

The main statement is `Text.quoted_printable_prefix_code`.
-/

namespace ScanFault

/-- Names and rules stand in front of parentheses. -/
theorem Text.Printable.parenthesize {before inside : Text} (before_printable : before.Printable)
    (inside_printable : inside.Printable) :
    Printable (before ++ CodePoint.ofChar '(' :: (inside ++ [.ofChar ')'])) := by
  rw [printable_append_iff, printable_cons_iff, printable_append_iff]
  exact ⟨before_printable, CodePoint.IsVisible.isUnprintable_eq (by decide), inside_printable,
    printable_of_visible (by decide)⟩

/-! ## Data -/

namespace Datum

theorem printable_literal (datum : Datum) : datum.literal.Printable := by
  cases datum with
  | text content => exact content.printable_quoted
  | number n => exact Text.printable_ofInt n

theorem printable_labelled {entry : String × Datum}
    (label_printable : (Text.ofString entry.1).Printable) : (labelled entry).Printable := by
  rw [labelled, Text.printable_append_iff, Text.printable_cons_iff]
  exact ⟨label_printable, CodePoint.IsVisible.isUnprintable_eq (by decide),
    entry.2.printable_literal⟩

/-- Data are listed printably under printable labels. -/
theorem printable_listing {entries : List (String × Datum)}
    (labels_printable : ∀ label ∈ entries.map Prod.fst, (Text.ofString label).Printable) :
    (listing entries).Printable := by
  induction entries with
  | nil => exact fun c found => nomatch found
  | cons entry entries ih =>
    obtain ⟨label_printable, rest_printable⟩ := List.forall_mem_cons.mp labels_printable
    have first := printable_labelled label_printable
    cases entries with
    | nil => exact first
    | cons next entries =>
      rw [listing, Text.printable_append_iff, Text.printable_append_iff]
      exact ⟨⟨first, Text.printable_of_visible (by decide)⟩, ih rest_printable⟩

end Datum

/-! ## Literal forms -/

namespace Kind

theorem printable_name (kind : Kind) : (Text.ofString kind.name).Printable :=
  have visible : ∀ kind ∈ all, ∀ c ∈ Text.ofString kind.name, c.IsVisible := by decide
  Text.printable_of_visible (visible kind kind.mem_all)

theorem printable_labels (kind : Kind) :
    ∀ label ∈ kind.labels.map Field.name, (Text.ofString label).Printable :=
  have visible : ∀ kind ∈ all, ∀ label ∈ kind.labels.map Field.name,
      ∀ c ∈ Text.ofString label, c.IsVisible := by decide
  fun label found => Text.printable_of_visible (visible kind kind.mem_all label found)

end Kind

theorem Fault.printable_literal (fault : Fault) : fault.literal.Printable := by
  have listing_printable : (Datum.listing fault.entries).Printable := by
    refine Datum.printable_listing ?_
    rw [entries_map_fst]
    exact fault.kind.printable_labels
  rw [literal_eq]
  exact fault.kind.printable_name.parenthesize listing_printable

theorem Item.printable_literal (item : Item) : item.view.literal.Printable := by
  cases item with
  | fault content => exact content.printable_literal
  | report content =>
    have name_printable : (Text.ofString Report.typeName).Printable :=
      Text.printable_of_visible (by decide)
    show content.literal.Printable
    rw [Report.literal_eq]
    exact name_printable.parenthesize content.fault.printable_literal

/-! ## Messages -/

namespace Violation

theorem printable_rule (violation : Violation) : (Text.ofString violation.rule).Printable := by
  refine Text.printable_of_visible ?_
  cases violation <;> rw [rule] <;> decide

theorem printable_labels (violation : Violation) :
    ∀ label ∈ violation.values.map Prod.fst, (Text.ofString label).Printable := by
  have visible : ∀ label ∈ violation.values.map Prod.fst,
      ∀ c ∈ Text.ofString label, c.IsVisible := by
    cases violation <;> simp only [values, List.map] <;> decide
  exact fun label found => Text.printable_of_visible (visible label found)

theorem printable_message (violation : Violation) : violation.message.Printable := by
  have front_printable : Text.Printable (Text.ofString violation.rule ++ [.ofChar ' ']) :=
    Text.printable_append_iff.mpr
      ⟨violation.printable_rule, Text.printable_of_visible (by decide)⟩
  rw [message_eq]
  exact front_printable.parenthesize (Datum.printable_listing violation.printable_labels)

end Violation

/-! ## Everything that is shown -/

/-- A quoted text says where it ends.  Two quoted texts with anything behind them agree only when
both the texts and what is behind them do.  Whatever the text holds, no unprintable code point is
left in its literal, and so no surrogate and no line break.  Hence every literal form and every
message of a violation is printable and has a size. -/
theorem Text.quoted_printable_prefix_code :
    (∀ first second x y : Text, first.quoted ++ x = second.quoted ++ y → first = second ∧ x = y) ∧
    (∀ text : Text, ∀ c ∈ text.quoted,
      c.isUnprintable = false ∧ c.isSurrogate = false ∧ c ∉ lineBreaks) ∧
    (∀ item : Item, item.view.literal.Printable ∧
      ∃ size, item.view.literal.size = .ok size) ∧
    ∀ broken : Violation, broken.message.Printable ∧ ∃ size, broken.message.size = .ok size := by
  refine ⟨fun _ _ _ _ => quoted_append_inj, ?_, ?_, ?_⟩
  · intro text c found
    have printable := text.printable_quoted
    exact ⟨printable c found, printable.encodable c found, printable.not_mem_lineBreaks found⟩
  · intro item
    exact ⟨item.printable_literal, _, item.printable_literal.size_eq⟩
  · intro broken
    exact ⟨broken.printable_message, _, broken.printable_message.size_eq⟩

/-- A surrogate and a line feed are quoted behind backslashes.  The text has no size, and the
message that says so has one, as has the literal form of a fault with the text for its line.  A
quote of the other sort does not end a literal. -/
theorem Text.quoted_printable_prefix_code_surrogate :
    ∃ text : Text, text.size = .error (.unencodable text) ∧ CodePoint.ofChar '\n' ∈ text ∧
      CodePoint.ofChar '\\' ∈ text.quoted ∧ CodePoint.ofChar '\\' ∉ lineBreaks ∧
      (∃ size, (Violation.unencodable text).message.size = .ok size) ∧
      (∃ size, (Item.fault (.invalidEscape text text)).view.literal.size = .ok size) ∧
      quoted "it's" ++ ofString "'" = quoted (ofString "it" ++ ofString "'s") ++ ofString "'" ∧
      ofString "it's" = ofString "it" ++ ofString "'s" := by
  obtain ⟨told, printable, literals, messages⟩ := quoted_printable_prefix_code
  let text : Text := [⟨0xDC80, by omega⟩, .ofChar '\n']
  have escaped : CodePoint.ofChar '\\' ∈ text.quoted := by decide +kernel
  have same : quoted "it's" ++ ofString "'" =
      quoted (ofString "it" ++ ofString "'s") ++ ofString "'" := rfl
  exact ⟨text, rfl, .tail _ (.head _), escaped, (printable _ _ escaped).2.2, (messages _).2,
    (literals _).2, same, (told _ _ _ _ same).1⟩

end ScanFault
