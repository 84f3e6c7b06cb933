import ScanFault.Violation

/-!
# Byte offsets in a text

A scanner counts positions in bytes of the UTF-8 encoding, and a text is a list of code points.
The functions here go from one to the other without making the bytes.

`Text.size` measures a text, unless it has no encoding.  `Text.charFrom` and `Text.cutFrom` walk
along a text and add up the sizes of the code points that they pass.  They stop at the offset they
look for, and they give up where they are beyond it.

`Text.charAt` and `Text.cutAt` check the offset before they walk.  A negative offset is refused
before anything else, then a text without an encoding, then an offset beyond the end.  What is left
for the walk to refuse is an offset inside a character.

`Text.encode?` makes the bytes.  Nothing here uses it: it is what the offsets are about.
-/

namespace ScanFault

namespace Text

/-! ## The encoding -/

/-- A text is encodable when no surrogate is in it. -/
def Encodable (text : Text) : Prop :=
  ∀ c ∈ text, c.isSurrogate = false

instance (text : Text) : Decidable text.Encodable :=
  inferInstanceAs (Decidable (∀ c ∈ text, c.isSurrogate = false))

/-- The bytes of an encodable text. -/
def encode? (text : Text) : Option (List UInt8) :=
  if text.Encodable then some (text.flatMap CodePoint.utf8) else none

/-! ## Sizes -/

/-- The number of bytes that the code points take together. -/
def width : Text → Nat
  | [] => 0
  | c :: rest => c.width + width rest

/-- The number of bytes in the encoding. -/
def size (text : Text) : Except Violation Nat :=
  if text.Encodable then .ok text.width else .error (.unencodable text)

/-! ## Walks

A walk is at `offset` and looks for `target` in the text that begins there. -/

/-- The code point that starts at the target.  Without one, `inside` is the refusal. -/
def charFrom (target : Nat) (inside : Violation) : Nat → Text → Except Violation CodePoint
  | _, [] => .error inside
  | offset, c :: rest =>
      if offset = target then .ok c
      else if target < offset then .error inside
      else do
        let size ← size [c]
        charFrom target inside (offset + size) rest

/-- The parts of the text before and from the target.  The target may be the end, and then the
second part is empty. -/
def cutFrom (target : Nat) (inside : Violation) : Nat → Text → Except Violation (Text × Text)
  | offset, [] => if offset = target then .ok ([], []) else .error inside
  | offset, c :: rest =>
      if offset = target then .ok ([], c :: rest)
      else if target < offset then .error inside
      else do
        let size ← size [c]
        let (before, after) ← cutFrom target inside (offset + size) rest
        return (c :: before, after)

/-! ## Checked access -/

/-- An index as an offset before the end of the text.  Another one is refused as `outside`. -/
def offsetBefore (text : Text) (index : Int) (outside : Violation) : Except Violation Nat :=
  if index < 0 then
    throw outside
  else do
    let size ← text.size
    if index < size then return index.toNat else throw outside

/-- An index as an offset up to the end of the text.  Another one is refused as `outside`. -/
def offsetUpTo (text : Text) (index : Int) (outside : Violation) : Except Violation Nat :=
  if index < 0 then
    throw outside
  else do
    let size ← text.size
    if index ≤ size then return index.toNat else throw outside

/-- The character whose encoding starts at byte `index`. -/
def charAt (text : Text) (index : Int) : Except Violation CodePoint := do
  let offset ← text.offsetBefore index (.characterOutside index text)
  charFrom offset (.characterInside index text) 0 text

/-- The text before byte `index` and the text from it. -/
def cutAt (text : Text) (index : Int) : Except Violation (Text × Text) := do
  let offset ← text.offsetUpTo index (.cutOutside index text)
  cutFrom offset (.cutInside index text) 0 text

end Text

end ScanFault
