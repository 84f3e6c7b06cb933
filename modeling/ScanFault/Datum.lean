import ScanFault.Text.Decimal
import ScanFault.Text.Quoted

/-!
# Data and their listing

A datum is a text or a number: what a field of a fault holds and what a message quotes.  Its literal
is a quoted text or a decimal numeral.  A number that is too long for the program to write is not
writable (`Datum.Writable`), and what would list it is not written.  A listing shows labelled data
one after the other, as in `index=3, line='foo#bar'`.
-/

namespace ScanFault

/-- A text or a number. -/
inductive Datum where
  /-- A text. -/
  | text (content : Text)
  /-- A number. -/
  | number (n : Int)
deriving DecidableEq, Hashable, Repr

namespace Datum

/-- The literal of a datum. -/
def literal : Datum → Text
  | .text content => content.quoted
  | .number n => Text.ofInt n

/-- The datum can be written.  A text always can, and a number if it is not too long. -/
def Writable : Datum → Prop
  | .text _ => True
  | .number n => n.natAbs < Nat.pow 10 Text.maxDigits

instance decidableWritable : (datum : Datum) → Decidable datum.Writable
  | .text _ => .isTrue trivial
  | .number n => inferInstanceAs (Decidable (n.natAbs < Nat.pow 10 Text.maxDigits))

theorem writable_text (content : Text) : (text content).Writable := trivial

theorem writable_number_iff {n : Int} :
    (number n).Writable ↔ n.natAbs < Nat.pow 10 Text.maxDigits := Iff.rfl

/-- A number of one digit can be written. -/
theorem writable_digit {n : Int} (small : n.natAbs < 10) : (number n).Writable :=
  Nat.lt_of_lt_of_le small (Nat.le_self_pow Text.maxDigits_ne_zero 10)

theorem le_of_not_writable {n : Int} (long : ¬ (number n).Writable) (nonneg : 0 ≤ n) :
    10 ≤ n := by
  have large := mt writable_digit long
  omega

theorem not_writable_ten_pow : ¬ (number (Nat.pow 10 Text.maxDigits)).Writable := by
  rw [writable_number_iff, Int.natAbs_natCast]
  exact Nat.lt_irrefl _

/-- A datum behind its label. -/
def labelled (entry : String × Datum) : Text :=
  Text.ofString entry.1 ++ CodePoint.ofChar '=' :: entry.2.literal

theorem labelled_eq (label : String) (datum : Datum) :
    labelled (label, datum) = Text.ofString (label ++ "=") ++ datum.literal := by
  rw [Text.ofString_append, List.append_assoc]
  rfl

/-- Labelled data, with a comma and a space between neighbours. -/
def listing : List (String × Datum) → Text
  | [] => []
  | [entry] => labelled entry
  | entry :: next :: entries => labelled entry ++ ", " ++ listing (next :: entries)

end Datum

end ScanFault
