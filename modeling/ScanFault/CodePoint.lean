/-!
# Code points

A code point is a number below `0x110000`.  The surrogates, `0xD800` to `0xDFFF`, are code points
too, so a text may hold one that stands alone.  They are the only code points without an encoding
in UTF-8.

`CodePoint.width` says how many bytes the encoding takes and `CodePoint.utf8` says which bytes they
are.  The two are defined apart, and `CodePoint.length_utf8` says that they agree.
-/

namespace ScanFault

/-- A code point: a scalar value or a surrogate. -/
@[ext]
structure CodePoint where
  /-- The number of the code point. -/
  val : Nat
  /-- The number is in the code space. -/
  isLt : val < 0x110000 := by omega
deriving DecidableEq, Hashable, Repr

namespace CodePoint

/-- Code points are ordered by their numbers. -/
instance : LT CodePoint := ⟨fun c d => c.val < d.val⟩

instance (c d : CodePoint) : Decidable (c < d) :=
  inferInstanceAs (Decidable (c.val < d.val))

theorem lt_iff {c d : CodePoint} : c < d ↔ c.val < d.val := Iff.rfl

/-- The code point of a character. -/
def ofChar (ch : Char) : CodePoint where
  val := ch.toNat
  isLt := by
    have valid := ch.valid
    simp only [UInt32.isValidChar, Nat.isValidChar] at valid
    have : ch.toNat = ch.val.toNat := rfl
    omega

theorem ofChar_inj {first second : Char} (h : ofChar first = ofChar second) : first = second :=
  Char.toNat_inj.mp (congrArg val h)

/-- The code point with a given number, if the number is in the code space. -/
def ofNat? (n : Nat) : Option CodePoint :=
  if h : n < 0x110000 then some ⟨n, h⟩ else none

/-- The digit of value `d` in lower case, for a base up to sixteen.  Larger values wrap. -/
def digit (d : Nat) : CodePoint where
  val := if d % 16 < 10 then 0x30 + d % 16 else 0x57 + d % 16
  isLt := by split <;> omega

/-! ## UTF-8 -/

/-- A surrogate has no encoding in UTF-8. -/
def isSurrogate (c : CodePoint) : Bool :=
  0xD800 ≤ c.val && c.val ≤ 0xDFFF

/-- The number of bytes in the encoding. -/
def width (c : CodePoint) : Nat :=
  if c.val < 0x80 then 1
  else if c.val < 0x800 then 2
  else if c.val < 0x10000 then 3
  else 4

/-- The bytes of the encoding: a lead byte that tells the width, then six bits to a byte.  For a
surrogate these bytes are not UTF-8, and `Text.encode?` never uses them. -/
def utf8 (c : CodePoint) : List UInt8 :=
  if c.val < 0x80 then
    [c.val.toUInt8]
  else if c.val < 0x800 then
    [(0xC0 + c.val / 0x40).toUInt8, (0x80 + c.val % 0x40).toUInt8]
  else if c.val < 0x10000 then
    [(0xE0 + c.val / 0x1000).toUInt8, (0x80 + c.val / 0x40 % 0x40).toUInt8,
      (0x80 + c.val % 0x40).toUInt8]
  else
    [(0xF0 + c.val / 0x40000).toUInt8, (0x80 + c.val / 0x1000 % 0x40).toUInt8,
      (0x80 + c.val / 0x40 % 0x40).toUInt8, (0x80 + c.val % 0x40).toUInt8]

theorem width_pos (c : CodePoint) : 0 < c.width := by
  simp only [width]
  repeat' split
  all_goals omega

theorem width_le_four (c : CodePoint) : c.width ≤ 4 := by
  simp only [width]
  repeat' split
  all_goals omega

/-- The encoding is as long as the width says. -/
theorem length_utf8 (c : CodePoint) : c.utf8.length = c.width := by
  simp only [utf8, width]
  repeat' split
  all_goals rfl

end CodePoint

end ScanFault
