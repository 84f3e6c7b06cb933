import ScanFault.Proofs.Offset.Utf8

/-!
# Offsets and bytes

The access by offset never makes the bytes of a text, and it agrees with them all the same.  The
main statement is `Text.offsets_refine_bytes`.  The size of a text is the number of its bytes.  A
cut or a character is refused exactly where the byte at the offset is a continuation byte.  A cut
of the text cuts its bytes at the offset, and a character of the text has the bytes that stand at
the offset.
-/

namespace ScanFault

namespace Text

theorem exists_eq_error_iff {α : Type} {result : Except Violation α} :
    (∃ broken, result = .error broken) ↔ ¬ ∃ a, result = .ok a := by
  cases result with
  | error broken => exact iff_of_true ⟨broken, rfl⟩ fun ⟨_, h⟩ => nomatch h
  | ok a => exact iff_of_false (fun ⟨_, h⟩ => nomatch h) fun h => h ⟨a, rfl⟩

section Bytes

variable {text : Text} {offset : Nat}

/-- A cut is refused where the byte at the offset is a continuation byte. -/
theorem cutAt_refused_iff (encodable : text.Encodable) (inside : offset ≤ text.width) :
    (∃ broken, text.cutAt offset = .error broken) ↔
      ∃ byte, (text.flatMap CodePoint.utf8)[offset]? = some byte ∧ IsContinuation byte := by
  rw [exists_eq_error_iff, exists_cutAt_eq_ok_iff, and_iff_right encodable,
    isContinuation_getElem?_iff, iff_and_self]
  intro no_boundary
  rcases Nat.lt_or_eq_of_le inside with before | rfl
  · exact before
  · exact absurd text.isBoundary_width no_boundary

theorem charAt_refused_iff (encodable : text.Encodable) (inside : offset < text.width) :
    (∃ broken, text.charAt offset = .error broken) ↔
      ∃ byte, (text.flatMap CodePoint.utf8)[offset]? = some byte ∧ IsContinuation byte := by
  rw [exists_eq_error_iff, exists_charAt_eq_ok_iff, and_iff_right encodable,
    and_iff_right inside, isContinuation_getElem?_iff, and_iff_right inside]

theorem encode?_of_cutAt {before after : Text} (made : text.cutAt offset = .ok (before, after)) :
    encode? before = some ((text.flatMap CodePoint.utf8).take offset) ∧
      encode? after = some ((text.flatMap CodePoint.utf8).drop offset) := by
  obtain ⟨encodable, rfl, width_eq⟩ := cutAt_eq_ok_iff.mp made
  obtain ⟨before_encodable, after_encodable⟩ := encodable_append_iff.mp encodable
  have length_eq : (before.flatMap CodePoint.utf8).length = offset := by
    rw [length_flatMap_utf8]
    exact Int.ofNat.inj width_eq
  rw [encode?_eq_some_iff, encode?_eq_some_iff, List.flatMap_append]
  refine ⟨⟨before_encodable, ?_⟩, after_encodable, ?_⟩
  · rw [List.take_left' length_eq]
  · rw [List.drop_left' length_eq]

/-- The character at an offset is the one whose bytes stand there. -/
theorem charAt_eq_ok_iff_bytes (encodable : text.Encodable) {c : CodePoint} :
    text.charAt offset = .ok c ↔ ∃ size, Text.size [c] = .ok size ∧
      encode? [c] = some (((text.flatMap CodePoint.utf8).drop offset).take size) := by
  have bytes_singleton : List.flatMap CodePoint.utf8 [c] = c.utf8 := List.flatMap_singleton ..
  constructor
  · intro found
    obtain ⟨-, before, after, rfl, width_eq⟩ := charAt_eq_ok_iff.mp found
    have scalar : Encodable [c] :=
      List.forall_mem_singleton.mpr (encodable c (List.mem_append_right _ (List.mem_cons_self ..)))
    refine ⟨c.width, size_of_encodable scalar, encode?_eq_some_iff.mpr ⟨scalar, ?_⟩⟩
    rw [bytes_singleton, List.flatMap_append, List.flatMap_cons,
      List.drop_left' (by rw [length_flatMap_utf8]; exact Int.ofNat.inj width_eq),
      List.take_left' c.length_utf8]
  · intro h
    obtain ⟨size, -, encoded⟩ := h
    obtain ⟨-, bytes_eq⟩ := encode?_eq_some_iff.mp encoded
    rw [bytes_singleton] at bytes_eq
    obtain ⟨lead, tail, utf8_eq, -, lead_first, -⟩ := c.utf8_lead
    have split_eq := List.take_append_drop size ((text.flatMap CodePoint.utf8).drop offset)
    rw [← bytes_eq] at split_eq
    have lead_here : (text.flatMap CodePoint.utf8)[offset]? = some lead := by
      rw [← Nat.add_zero offset, ← List.getElem?_drop, ← split_eq, utf8_eq]
      rfl
    have inside : offset < text.width := by
      rw [← length_flatMap_utf8]
      exact (List.getElem?_eq_some_iff.mp lead_here).1
    -- The first of the bytes is a lead byte, so the offset is a boundary and some character is
    -- there.  It is `c`, since no encoding is the beginning of another.
    have boundary := isBoundary_of_lead lead_here lead_first
    obtain ⟨d, found⟩ := exists_charAt_eq_ok_iff.mpr ⟨encodable, inside, boundary⟩
    obtain ⟨-, before, after, rfl, width_eq⟩ := charAt_eq_ok_iff.mp found
    rw [List.flatMap_append, List.flatMap_cons,
      List.drop_left' (by rw [length_flatMap_utf8]; exact Int.ofNat.inj width_eq)] at split_eq
    rw [found, (CodePoint.utf8_append_inj split_eq).1]

end Bytes

/-- Access by offset is access to the bytes of the encoding. -/
theorem offsets_refine_bytes {text : Text} {bytes : List UInt8}
    (encoded : text.encode? = some bytes) :
    (∀ string : String, text = ofString string → bytes = string.toByteArray.data.toList) ∧
    text.size = .ok bytes.length ∧
    ∀ index : Int, 0 ≤ index → index ≤ bytes.length →
      ((∃ broken, text.cutAt index = .error broken) ↔
        ∃ byte, bytes[index.toNat]? = some byte ∧ IsContinuation byte) ∧
      (∀ before after, text.cutAt index = .ok (before, after) →
        encode? before = some (bytes.take index.toNat) ∧
        encode? after = some (bytes.drop index.toNat)) ∧
      (index < bytes.length →
        ((∃ broken, text.charAt index = .error broken) ↔
          ∃ byte, bytes[index.toNat]? = some byte ∧ IsContinuation byte) ∧
        ∀ c, text.charAt index = .ok c ↔ ∃ size, Text.size [c] = .ok size ∧
          encode? [c] = some ((bytes.drop index.toNat).take size)) := by
  obtain ⟨encodable, rfl⟩ := encode?_eq_some_iff.mp encoded
  rw [length_flatMap_utf8]
  refine ⟨?_, size_of_encodable encodable, ?_⟩
  · rintro string rfl
    rw [encode?_ofString, Option.some.injEq] at encoded
    exact encoded.symm
  intro index nonneg inside
  obtain ⟨offset, rfl⟩ := Int.eq_ofNat_of_zero_le nonneg
  rw [Int.toNat_natCast]
  refine ⟨?_, ?_, ?_⟩
  · exact cutAt_refused_iff encodable (Int.ofNat_le.mp inside)
  · intro before after made
    exact encode?_of_cutAt made
  · intro before_end
    refine ⟨charAt_refused_iff encodable (Int.ofNat_lt.mp before_end), fun c => ?_⟩
    exact charAt_eq_ok_iff_bytes encodable

/-- The bytes `C3 A9 F0 9F 98 80`: offset 1 is inside the first character, and offset 2 is where the
second begins. -/
theorem offsets_refine_bytes_two_widths :
    encode? "é😀" = some [0xC3, 0xA9, 0xF0, 0x9F, 0x98, 0x80] ∧
      (∃ broken, cutAt "é😀" 1 = .error broken) ∧
      charAt "é😀" 2 = .ok (.ofChar '😀') := by
  have encoded : encode? "é😀" = some [0xC3, 0xA9, 0xF0, 0x9F, 0x98, 0x80] := by decide
  obtain ⟨-, -, offsets⟩ := offsets_refine_bytes encoded
  refine ⟨encoded, ?_, ?_⟩
  · have cut_refused := (offsets 1 (by decide) (by decide)).1
    exact cut_refused.mpr ⟨0xA9, rfl, by decide⟩
  · have char_found := ((offsets 2 (by decide) (by decide)).2.2 (by decide)).2 (.ofChar '😀')
    exact char_found.mpr ⟨4, rfl, by decide⟩

end Text

end ScanFault
