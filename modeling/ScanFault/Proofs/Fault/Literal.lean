import ScanFault.Proofs.Text.Quoted
import ScanFault.View

/-!
# Literal forms tell items apart

The literal form of a fault is the name of its kind and its data in parentheses, and a report puts
one more pair of parentheses around it.  A text among the data may look like a part of a literal
form itself, with commas, parentheses and labels.  It is quoted, so it ends where its literal ends,
and a number ends at the comma or parenthesis behind it (`Datum.literal_append_inj`).  Data under
the same labels are therefore read one after the other (`Datum.listing_append_inj`).

No name has a parenthesis in it, so the name of the kind comes first and the labels follow from the
kind.  The main statement is `Item.literal_eq_iff_beq`.  Items have the same literal form exactly
when they are equal.  Neither looks at a predicate.
-/

namespace ScanFault

namespace Datum

/-! ## Data -/

/-- A code point that may stand behind a datum. -/
def IsClosing (c : CodePoint) : Prop :=
  c = .ofChar ',' ∨ c = .ofChar ')'

theorem quoted_ne_ofInt_append {text x y : Text} (i : Int) :
    text.quoted ++ x ≠ Text.ofInt i ++ y := by
  intro same
  obtain ⟨head, tail, numeral_eq⟩ := List.exists_cons_of_ne_nil (Text.ofInt_ne_nil i)
  rw [numeral_eq, Text.quoted, List.cons_append, List.cons_append, List.cons_append] at same
  have quote_mem : text.quote ∈ Text.ofInt i := by
    rw [numeral_eq, (List.cons.inj same).1]
    exact List.mem_cons_self ..
  rcases text.isQuote_quote with quote_eq | quote_eq
  · rw [quote_eq] at quote_mem
    exact absurd (Text.eq_minus_or_isDecimal_of_mem_ofInt quote_mem) (by decide)
  · rw [quote_eq] at quote_mem
    exact absurd (Text.eq_minus_or_isDecimal_of_mem_ofInt quote_mem) (by decide)

/-- Two data with the same closing code point behind them are told from what follows. -/
theorem literal_append_inj {a b : Datum} {c : CodePoint} {x y : Text} (closing : IsClosing c)
    (h : a.literal ++ c :: x = b.literal ++ c :: y) : a = b ∧ x = y := by
  cases a with
  | text first =>
    cases b with
    | text second =>
      obtain ⟨rfl, rest_eq⟩ := Text.quoted_append_inj h
      exact ⟨rfl, (List.cons.inj rest_eq).2⟩
    | number j => exact absurd h (quoted_ne_ofInt_append j)
  | number i =>
    cases b with
    | text second => exact absurd h.symm (quoted_ne_ofInt_append i)
    | number j =>
      have outside : c ≠ .ofChar '-' ∧ ¬ c.IsDecimal := by
        rcases closing with rfl | rfl
        · decide
        · decide
      obtain ⟨rfl, rest_eq⟩ := Text.ofInt_append_inj outside.1 outside.2 h
      exact ⟨rfl, rest_eq⟩

theorem labelled_append_inj {label : String} {a b : Datum} {c : CodePoint} {x y : Text}
    (closing : IsClosing c)
    (h : labelled (label, a) ++ c :: x = labelled (label, b) ++ c :: y) : a = b ∧ x = y := by
  rw [labelled_eq, labelled_eq, List.append_assoc, List.append_assoc] at h
  exact literal_append_inj closing (List.append_cancel_left h)

/-- Data under the same labels are determined by their listing. -/
theorem listing_append_inj {first second : List (String × Datum)}
    (labels_eq : first.map Prod.fst = second.map Prod.fst) {x y : Text}
    (h : listing first ++ CodePoint.ofChar ')' :: x = listing second ++ .ofChar ')' :: y) :
    first.map Prod.snd = second.map Prod.snd ∧ x = y := by
  induction first generalizing second with
  | nil =>
    obtain rfl := List.map_eq_nil_iff.mp labels_eq.symm
    exact ⟨rfl, (List.cons.inj h).2⟩
  | cons entry entries ih =>
    obtain ⟨entry', entries', rfl, label_eq, entries_eq⟩ :=
      List.map_eq_cons_iff.mp labels_eq.symm
    obtain ⟨label, a⟩ := entry
    obtain ⟨label', b⟩ := entry'
    obtain rfl : label' = label := label_eq
    -- The lists are equally long, so the same code point closes both data.
    cases entries with
    | nil =>
      obtain rfl := List.map_eq_nil_iff.mp entries_eq
      obtain ⟨rfl, rest_eq⟩ := labelled_append_inj (.inr rfl) h
      exact ⟨rfl, rest_eq⟩
    | cons next entries =>
      obtain ⟨next', entries', rfl, -, -⟩ := List.map_eq_cons_iff.mp entries_eq
      rw [listing, listing, List.append_assoc, List.append_assoc, List.append_assoc,
        List.append_assoc] at h
      obtain ⟨rfl, rest_eq⟩ := labelled_append_inj (.inl rfl) h
      obtain ⟨data_eq, rfl⟩ := ih entries_eq.symm (List.cons.inj rest_eq).2
      exact ⟨congrArg (a :: ·) data_eq, rfl⟩

end Datum

/-! ## Kinds -/

namespace Kind

theorem mem_all (kind : Kind) : kind ∈ all := by
  cases kind <;> decide

theorem parenthesis_not_mem_name (kind : Kind) : CodePoint.ofChar '(' ∉ Text.ofString kind.name :=
  have checked : ∀ kind ∈ all, CodePoint.ofChar '(' ∉ Text.ofString kind.name := by decide
  checked kind kind.mem_all

theorem ofString_name_inj {first second : Kind}
    (h : Text.ofString first.name = Text.ofString second.name) : first = second :=
  have checked : ∀ first ∈ all, ∀ second ∈ all,
      Text.ofString first.name = Text.ofString second.name → first = second := by decide
  checked first first.mem_all second second.mem_all h

theorem ofString_name_ne_report (kind : Kind) :
    Text.ofString kind.name ≠ Text.ofString Report.typeName :=
  have checked : ∀ kind ∈ all, Text.ofString kind.name ≠ Text.ofString Report.typeName := by decide
  checked kind kind.mem_all

end Kind

/-! ## Faults -/

namespace Fault

theorem fields_map_fst (fault : Fault) : fault.fields.map Prod.fst = fault.kind.labels := by
  cases fault <;> rfl

/-- The data under the names of their fields. -/
def entries (fault : Fault) : List (String × Datum) :=
  fault.fields.map fun (field, datum) => (field.name, datum)

theorem entries_map_fst (fault : Fault) :
    fault.entries.map Prod.fst = fault.kind.labels.map Field.name := by
  rw [entries, List.map_map, ← fields_map_fst, List.map_map]
  rfl

theorem entries_map_snd (fault : Fault) :
    fault.entries.map Prod.snd = fault.fields.map Prod.snd := by
  rw [entries, List.map_map]
  rfl

theorem literal_eq (fault : Fault) :
    fault.literal = Text.ofString fault.kind.name ++ CodePoint.ofChar '(' ::
      (Datum.listing fault.entries ++ [.ofChar ')']) := by
  rw [literal, List.append_assoc, List.append_assoc]
  rfl

/-- A fault is determined by its kind and its data, up to its predicate. -/
theorem key_eq_iff {a b : Fault} :
    a.key = b.key ↔ a.kind = b.kind ∧ a.fields.map Prod.snd = b.fields.map Prod.snd := by
  rw [key, key, Prod.mk.injEq]
  refine and_congr_right fun kind_eq => ⟨congrArg _, fun data_eq => ?_⟩
  rw [← List.zip_unzip a.fields, ← List.zip_unzip b.fields, List.unzip_eq_map, List.unzip_eq_map,
    fields_map_fst, fields_map_fst, kind_eq, data_eq]

/-- Two literal forms with anything behind them are the same only for equal faults. -/
theorem literal_append_inj {a b : Fault} {x y : Text} (h : a.literal ++ x = b.literal ++ y) :
    a.key = b.key ∧ x = y := by
  rw [literal_eq, literal_eq, List.append_assoc, List.append_assoc, List.cons_append,
    List.cons_append, List.append_assoc, List.append_assoc] at h
  obtain ⟨name_eq, listing_eq⟩ :=
    Text.append_cons_inj a.kind.parenthesis_not_mem_name b.kind.parenthesis_not_mem_name h
  have kind_eq := Kind.ofString_name_inj name_eq
  have labels_eq : a.entries.map Prod.fst = b.entries.map Prod.fst := by
    rw [entries_map_fst, entries_map_fst, kind_eq]
  obtain ⟨data_eq, rest_eq⟩ := Datum.listing_append_inj labels_eq listing_eq
  rw [entries_map_snd, entries_map_snd] at data_eq
  exact ⟨key_eq_iff.mpr ⟨kind_eq, data_eq⟩, rest_eq⟩

/-- The literal form does not look at the predicate. -/
theorem literal_eq_of_key_eq {a b : Fault} (key_eq : a.key = b.key) : a.literal = b.literal := by
  obtain ⟨kind_eq, fields_eq⟩ := Prod.mk.inj key_eq
  rw [literal, literal, kind_eq, fields_eq]

theorem literal_eq_iff_key_eq {a b : Fault} : a.literal = b.literal ↔ a.key = b.key := by
  refine ⟨fun same => ?_, literal_eq_of_key_eq⟩
  exact (literal_append_inj (congrArg (· ++ []) same)).1

end Fault

/-! ## Items -/

theorem Report.literal_eq (report : Report) :
    report.literal = Text.ofString Report.typeName ++ CodePoint.ofChar '(' ::
      (report.fault.literal ++ [.ofChar ')']) := by
  rw [literal, List.append_assoc, List.append_assoc]
  rfl

/-- The literal form that a view shows. -/
def View.literal : View → Text
  | .fault content => content.literal
  | .report content => content.literal

/-- A fault never looks like a report, since the names in front differ. -/
theorem Fault.literal_ne_report (fault : Fault) (report : Report) :
    fault.literal ≠ report.literal := by
  intro same
  rw [Fault.literal_eq, Report.literal_eq] at same
  have no_parenthesis : CodePoint.ofChar '(' ∉ Text.ofString Report.typeName := by decide
  exact fault.kind.ofString_name_ne_report
    (Text.append_cons_inj fault.kind.parenthesis_not_mem_name no_parenthesis same).1

theorem Report.literal_eq_iff {a b : Report} :
    a.literal = b.literal ↔ a.fault.key = b.fault.key := by
  rw [literal_eq, literal_eq, List.append_cancel_left_eq, List.cons.injEq,
    List.append_cancel_right_eq, Fault.literal_eq_iff_key_eq, and_iff_right rfl]

/-- Two items are shown in the same literal form exactly when they are equal.  The form of a report
is that of its current fault, with one more name and pair of parentheses around it. -/
theorem Item.literal_eq_iff_beq (a b : Item) :
    a.view.literal = b.view.literal ↔ (a == b) = true := by
  cases a with
  | fault a =>
    cases b with
    | fault b => exact Fault.literal_eq_iff_key_eq.trans Fault.beq_iff_key_eq.symm
    | report b => exact iff_of_false (a.literal_ne_report b) Bool.false_ne_true
  | report a =>
    cases b with
    | fault b => exact iff_of_false (b.literal_ne_report a).symm Bool.false_ne_true
    | report b => exact Report.literal_eq_iff.trans Fault.beq_iff_key_eq.symm

end ScanFault
