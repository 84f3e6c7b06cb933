import ScanFault.Offset.Lemmas

/-!
# Lead bytes and continuation bytes

The encoding of a code point is one lead byte and then continuation bytes.  A lead byte is never a
continuation byte, and it tells the width (`CodePoint.utf8_lead`).  The bytes tell the code point
(`CodePoint.ofUtf8_utf8`), so no encoding is the beginning of another (`CodePoint.utf8_append_inj`).

For a text this means that the bytes show where its code points begin.
`Text.isContinuation_getElem?_iff` says that a byte is a continuation byte exactly when its offset
is no boundary.

On characters the encoding is the one of core: `CodePoint.utf8_ofChar` and `Text.encode?_ofString`.
-/

namespace ScanFault

/-- The byte goes on with an encoding that began before it. -/
def IsContinuation (byte : UInt8) : Prop := 0x80 ≤ byte ∧ byte ≤ 0xBF

instance (byte : UInt8) : Decidable (IsContinuation byte) :=
  inferInstanceAs (Decidable (0x80 ≤ byte ∧ byte ≤ 0xBF))

theorem isContinuation_iff {byte : UInt8} :
    IsContinuation byte ↔ 0x80 ≤ byte.toNat ∧ byte.toNat ≤ 0xBF := by
  rw [IsContinuation, UInt8.le_iff_toNat_le, UInt8.le_iff_toNat_le]
  rfl

theorem toNat_toUInt8 {n : Nat} (small : n < 0x100) : n.toUInt8.toNat = n :=
  UInt8.toNat_ofNat_of_lt small

theorem isContinuation_bits (n : Nat) : IsContinuation (0x80 + n % 0x40).toUInt8 := by
  rw [isContinuation_iff, toNat_toUInt8 (by omega)]
  omega

namespace CodePoint

/-! ## One code point -/

/-- The width that a lead byte tells. -/
def leadWidth (lead : UInt8) : Nat :=
  if lead.toNat < 0x80 then 1
  else if lead.toNat < 0xE0 then 2
  else if lead.toNat < 0xF0 then 3
  else 4

/-- The bits that a lead byte holds beside the width. -/
def leadBits (lead : UInt8) : Nat :=
  if lead.toNat < 0x80 then lead.toNat
  else if lead.toNat < 0xE0 then lead.toNat - 0xC0
  else if lead.toNat < 0xF0 then lead.toNat - 0xE0
  else lead.toNat - 0xF0

/-- The number of the code point with these bytes. -/
def ofUtf8 : List UInt8 → Nat
  | [] => 0
  | lead :: tail => tail.foldl (fun bits byte => bits * 0x40 + (byte.toNat - 0x80)) (leadBits lead)

/-- The four ranges of code points, with their widths and encodings. -/
theorem utf8_cases (c : CodePoint) :
    (c.val < 0x80 ∧ c.width = 1 ∧ c.utf8 = [c.val.toUInt8]) ∨
    (0x80 ≤ c.val ∧ c.val < 0x800 ∧ c.width = 2 ∧
      c.utf8 = [(0xC0 + c.val / 0x40).toUInt8, (0x80 + c.val % 0x40).toUInt8]) ∨
    (0x800 ≤ c.val ∧ c.val < 0x10000 ∧ c.width = 3 ∧
      c.utf8 = [(0xE0 + c.val / 0x1000).toUInt8, (0x80 + c.val / 0x40 % 0x40).toUInt8,
        (0x80 + c.val % 0x40).toUInt8]) ∨
    (0x10000 ≤ c.val ∧ c.val < 0x110000 ∧ c.width = 4 ∧
      c.utf8 = [(0xF0 + c.val / 0x40000).toUInt8, (0x80 + c.val / 0x1000 % 0x40).toUInt8,
        (0x80 + c.val / 0x40 % 0x40).toUInt8, (0x80 + c.val % 0x40).toUInt8]) := by
  by_cases one : c.val < 0x80
  · exact .inl ⟨one, if_pos one, if_pos one⟩
  by_cases two : c.val < 0x800
  · refine .inr (.inl ⟨by omega, two, ?_, ?_⟩)
    · rw [width, if_neg one, if_pos two]
    · rw [utf8, if_neg one, if_pos two]
  by_cases three : c.val < 0x10000
  · refine .inr (.inr (.inl ⟨by omega, three, ?_, ?_⟩))
    · rw [width, if_neg one, if_neg two, if_pos three]
    · rw [utf8, if_neg one, if_neg two, if_pos three]
  · refine .inr (.inr (.inr ⟨by omega, c.isLt, ?_, ?_⟩))
    · rw [width, if_neg one, if_neg two, if_neg three]
    · rw [utf8, if_neg one, if_neg two, if_neg three]

theorem utf8_lead (c : CodePoint) :
    ∃ lead tail, c.utf8 = lead :: tail ∧ leadWidth lead = c.width ∧ ¬ IsContinuation lead ∧
      ∀ byte ∈ tail, IsContinuation byte := by
  rcases c.utf8_cases with ⟨_, width_eq, bytes_eq⟩ | ⟨_, _, width_eq, bytes_eq⟩ |
    ⟨_, _, width_eq, bytes_eq⟩ | ⟨_, _, width_eq, bytes_eq⟩
  · refine ⟨_, _, bytes_eq, ?_, ?_, ?_⟩
    · rw [leadWidth, toNat_toUInt8 (by omega), if_pos (by omega), width_eq]
    · rw [isContinuation_iff, toNat_toUInt8 (by omega)]
      omega
    · intro byte found
      cases found
  · refine ⟨_, _, bytes_eq, ?_, ?_, ?_⟩
    · rw [leadWidth, toNat_toUInt8 (by omega), if_neg (by omega), if_pos (by omega), width_eq]
    · rw [isContinuation_iff, toNat_toUInt8 (by omega)]
      omega
    · simp only [List.forall_mem_cons, isContinuation_bits, List.not_mem_nil, false_implies,
        implies_true, and_self]
  · refine ⟨_, _, bytes_eq, ?_, ?_, ?_⟩
    · rw [leadWidth, toNat_toUInt8 (by omega), if_neg (by omega), if_neg (by omega),
        if_pos (by omega), width_eq]
    · rw [isContinuation_iff, toNat_toUInt8 (by omega)]
      omega
    · simp only [List.forall_mem_cons, isContinuation_bits, List.not_mem_nil, false_implies,
        implies_true, and_self]
  · refine ⟨_, _, bytes_eq, ?_, ?_, ?_⟩
    · rw [leadWidth, toNat_toUInt8 (by omega), if_neg (by omega), if_neg (by omega),
        if_neg (by omega), width_eq]
    · rw [isContinuation_iff, toNat_toUInt8 (by omega)]
      omega
    · simp only [List.forall_mem_cons, isContinuation_bits, List.not_mem_nil, false_implies,
        implies_true, and_self]

theorem ofUtf8_utf8 (c : CodePoint) : ofUtf8 c.utf8 = c.val := by
  rcases c.utf8_cases with ⟨_, _, bytes_eq⟩ | ⟨_, _, _, bytes_eq⟩ | ⟨_, _, _, bytes_eq⟩ |
    ⟨_, _, _, bytes_eq⟩
  · rw [bytes_eq, ofUtf8, leadBits, toNat_toUInt8 (by omega), if_pos (by omega)]
    rfl
  · rw [bytes_eq, ofUtf8, leadBits, toNat_toUInt8 (by omega), if_neg (by omega), if_pos (by omega)]
    simp only [List.foldl_cons, List.foldl_nil]
    rw [toNat_toUInt8 (by omega)]
    omega
  · rw [bytes_eq, ofUtf8, leadBits, toNat_toUInt8 (by omega), if_neg (by omega), if_neg (by omega),
      if_pos (by omega)]
    simp only [List.foldl_cons, List.foldl_nil]
    rw [toNat_toUInt8 (by omega), toNat_toUInt8 (by omega)]
    omega
  · rw [bytes_eq, ofUtf8, leadBits, toNat_toUInt8 (by omega), if_neg (by omega), if_neg (by omega),
      if_neg (by omega)]
    simp only [List.foldl_cons, List.foldl_nil]
    rw [toNat_toUInt8 (by omega), toNat_toUInt8 (by omega), toNat_toUInt8 (by omega)]
    omega

/-- No encoding is the beginning of another.  The lead byte tells the width, so the two encodings
end at the same byte. -/
theorem utf8_append_inj {c d : CodePoint} {rest rest' : List UInt8}
    (bytes_eq : c.utf8 ++ rest = d.utf8 ++ rest') : c = d ∧ rest = rest' := by
  obtain ⟨lead, tail, c_eq, c_width, -, -⟩ := c.utf8_lead
  obtain ⟨lead', tail', d_eq, d_width, -, -⟩ := d.utf8_lead
  have lead_eq : lead = lead' := by
    rw [c_eq, d_eq, List.cons_append, List.cons_append, List.cons.injEq] at bytes_eq
    exact bytes_eq.1
  have length_eq : c.utf8.length = d.utf8.length := by
    rw [length_utf8, length_utf8, ← c_width, ← d_width, lead_eq]
  obtain ⟨utf8_eq, rest_eq⟩ := List.append_inj bytes_eq length_eq
  refine ⟨CodePoint.ext ?_, rest_eq⟩
  rw [← c.ofUtf8_utf8, ← d.ofUtf8_utf8, utf8_eq]

theorem isSurrogate_ofChar (ch : Char) : (ofChar ch).isSurrogate = false := by
  have valid : ch.toNat.isValidChar := ch.valid
  have val_eq : (ofChar ch).val = ch.toNat := rfl
  rw [Nat.isValidChar] at valid
  rw [isSurrogate, val_eq, Bool.and_eq_false_iff, decide_eq_false_iff_not, decide_eq_false_iff_not]
  omega

theorem utf8_ofChar (ch : Char) : (ofChar ch).utf8 = String.utf8EncodeChar ch := by
  have val_eq : ch.val.toNat = (ofChar ch).val := rfl
  simp only [String.utf8EncodeChar, val_eq]
  generalize ofChar ch = c
  rcases c.utf8_cases with ⟨_, _, bytes_eq⟩ | ⟨_, _, _, bytes_eq⟩ | ⟨_, _, _, bytes_eq⟩ |
    ⟨_, _, _, bytes_eq⟩
  · rw [bytes_eq, if_pos (by omega)]
  · rw [bytes_eq, if_neg (by omega), if_pos (by omega), Nat.mod_eq_of_lt (b := 0x20) (by omega),
      Nat.add_comm 0xC0, Nat.add_comm 0x80]
  · rw [bytes_eq, if_neg (by omega), if_neg (by omega), if_pos (by omega),
      Nat.mod_eq_of_lt (b := 0x10) (by omega), Nat.add_comm 0xE0, Nat.add_comm 0x80,
      Nat.add_comm 0x80]
  · rw [bytes_eq, if_neg (by omega), if_neg (by omega), if_neg (by omega),
      Nat.mod_eq_of_lt (b := 0x08) (by omega), Nat.add_comm 0xF0, Nat.add_comm 0x80,
      Nat.add_comm 0x80, Nat.add_comm 0x80]

end CodePoint

namespace Text

/-! ## Texts -/

theorem encode?_eq_some_iff {text : Text} {bytes : List UInt8} :
    text.encode? = some bytes ↔ text.Encodable ∧ text.flatMap CodePoint.utf8 = bytes := by
  rw [encode?, Option.ite_none_right_eq_some, Option.some.injEq]

theorem length_flatMap_utf8 (text : Text) : (text.flatMap CodePoint.utf8).length = text.width := by
  induction text with
  | nil => rfl
  | cons c rest ih =>
    rw [List.flatMap_cons, List.length_append, CodePoint.length_utf8, ih, width_cons]

/-- The bytes show the boundaries: inside a code point there are only continuation bytes. -/
theorem isContinuation_getElem?_iff {text : Text} {offset : Nat} :
    (∃ byte, (text.flatMap CodePoint.utf8)[offset]? = some byte ∧ IsContinuation byte) ↔
      offset < text.width ∧ ¬ text.IsBoundary offset := by
  induction text generalizing offset with
  | nil =>
    refine iff_of_false ?_ fun h => Nat.not_lt_zero offset h.1
    rintro ⟨byte, found, -⟩
    cases found
  | cons c rest ih =>
    obtain ⟨lead, tail, bytes_eq, -, lead_first, tail_continues⟩ := c.utf8_lead
    have length_eq : (lead :: tail).length = c.width := by rw [← bytes_eq, c.length_utf8]
    rw [List.flatMap_cons, width_cons, isBoundary_cons_iff]
    rcases Nat.lt_or_ge offset c.width with inside | behind
    · rw [bytes_eq, List.getElem?_append_left (by omega)]
      cases offset with
      | zero =>
        refine iff_of_false ?_ fun h => h.2 (.inl rfl)
        rintro ⟨byte, found, continues⟩
        cases found
        exact lead_first continues
      | succ offset =>
        rw [List.length_cons] at length_eq
        refine iff_of_true ⟨tail[offset], ?_, tail_continues _ (List.getElem_mem _)⟩ ?_
        · rw [List.getElem?_cons_succ, List.getElem?_eq_getElem]
        · omega
    · have := c.width_pos
      rw [List.getElem?_append_right (by rw [c.length_utf8]; exact behind), c.length_utf8, ih,
        or_iff_right (by omega), and_iff_right behind]
      exact and_congr_left fun _ => by omega

/-- A byte that is no continuation byte stands where a code point begins. -/
theorem isBoundary_of_lead {text : Text} {offset : Nat} {lead : UInt8}
    (here : (text.flatMap CodePoint.utf8)[offset]? = some lead) (first : ¬ IsContinuation lead) :
    text.IsBoundary offset := by
  refine Classical.byContradiction fun no_boundary => ?_
  have inside : offset < text.width := by
    rw [← length_flatMap_utf8]
    exact (List.getElem?_eq_some_iff.mp here).1
  obtain ⟨byte, byte_here, continues⟩ := isContinuation_getElem?_iff.mpr ⟨inside, no_boundary⟩
  rw [here, Option.some.injEq] at byte_here
  subst byte_here
  exact first continues

theorem encodable_ofString (string : String) : Encodable (ofString string) := by
  intro c found
  obtain ⟨ch, -, rfl⟩ := List.mem_map.mp found
  exact CodePoint.isSurrogate_ofChar ch

theorem encode?_ofString (string : String) :
    encode? (ofString string) = some string.toByteArray.data.toList := by
  refine encode?_eq_some_iff.mpr ⟨encodable_ofString string, ?_⟩
  rw [← String.utf8Encode_toList, List.utf8Encode, List.toList_data_toByteArray, ofString,
    List.flatMap_map]
  simp only [CodePoint.utf8_ofChar]

end Text

end ScanFault
