import ScanFault.Text.Basic

/-!
# Decimal numerals

Integers are written in base ten with no leading zero, and a negative one has a minus in front.

Every integer has a numeral here, and up to `Text.maxDigits` digits it is what the program writes.
An integer with more digits is not written at all: a message that would show one is refused itself
(`Violation.refusal`).  The literal form of a fault shows an index that lies in the line of the
fault, so a longer numeral there takes a line of more than `10 ^ Text.maxDigits` bytes.
-/

namespace ScanFault

namespace Text

/-- The most digits of an integer that is written. -/
@[irreducible]
def maxDigits : Nat := 4300

theorem maxDigits_eq : maxDigits = 4300 := by
  rw [maxDigits]

theorem maxDigits_ne_zero : maxDigits ≠ 0 := by
  rw [maxDigits_eq]
  exact Nat.succ_ne_zero 4299

/-- The decimal numeral of a natural number. -/
def ofNat (n : Nat) : Text :=
  if n < 10 then [CodePoint.digit n] else ofNat (n / 10) ++ [CodePoint.digit (n % 10)]

/-- The decimal numeral of an integer. -/
def ofInt : Int → Text
  | .ofNat n => ofNat n
  | .negSucc n => CodePoint.ofChar '-' :: ofNat (n + 1)

end Text

end ScanFault
