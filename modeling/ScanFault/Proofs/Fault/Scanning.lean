import Mathlib.Data.List.Chain
import ScanFault.Proofs.Fault.Placing
import ScanFault.Proofs.Offset.Locality

/-!
# Reading a whole line

A scanner may come upon the characters of a line in two ways.  It may try every offset and leave out
those that are refused (`Text.readings`).  Or it may report the character at its offset as an
unexpected token and go on behind the token (`Text.Scan`).

Both ways meet every character once and in order.  The readings of a line are that of its first
character and then those of the rest, shifted by one width (`Text.readings_range_cons`), so nothing
is read between two characters.  A scan is always at the start of a character or at the end of the
line (`Text.scan_iff`), so it never fails on the way.  The main statement is
`Text.characters_read_once`.
-/

namespace ScanFault

namespace Text

/-! ## Trying every offset -/

/-- The character at an offset together with the offset, if one is read there. -/
def reading? (text : Text) (offset : Nat) : Option (Nat × CodePoint) :=
  (text.charAt offset).toOption.map fun c => (offset, c)

/-- What is read at the offsets.  An offset where the reading is refused is left out. -/
def readings (text : Text) (offsets : List Nat) : List (Nat × CodePoint) :=
  offsets.filterMap text.reading?

/-- One character is directly behind another. -/
def Adjacent (here next : Nat × CodePoint) : Prop :=
  ∃ width, size [here.2] = .ok width ∧ next.1 = here.1 + width ∧ 1 ≤ width ∧ width ≤ 4

section Readings

variable {text rest : Text} {c : CodePoint} {offset : Nat}

theorem reading?_of_ok (found : text.charAt offset = .ok c) :
    text.reading? offset = some (offset, c) := by
  rw [reading?, found]
  rfl

theorem reading?_of_error {broken : Violation} (refused : text.charAt offset = .error broken) :
    text.reading? offset = none := by
  rw [reading?, refused]
  rfl

theorem reading?_eq_some_iff {place : Nat} :
    text.reading? offset = some (place, c) ↔ offset = place ∧ text.charAt place = .ok c := by
  cases found : text.charAt offset with
  | error broken =>
    rw [reading?_of_error found]
    refine iff_of_false (fun h => nomatch h) ?_
    rintro ⟨rfl, found'⟩
    cases found.symm.trans found'
  | ok d =>
    rw [reading?_of_ok found, Option.some.injEq, Prod.mk.injEq]
    refine and_congr_right ?_
    rintro rfl
    rw [found, Except.ok.injEq]

/-- All that can be read is read before the end of the text. -/
theorem mem_readings_range_iff :
    (offset, c) ∈ text.readings (List.range text.width) ↔ text.charAt offset = .ok c := by
  rw [readings, List.mem_filterMap]
  constructor
  · rintro ⟨place, -, read⟩
    exact (reading?_eq_some_iff.mp read).2
  · intro found
    obtain ⟨-, before_end, -⟩ := exists_charAt_eq_ok_iff.mp ⟨c, found⟩
    exact ⟨offset, List.mem_range.mpr before_end, reading?_of_ok found⟩

/-- At the offsets of its first character a text has one reading. -/
theorem readings_range_width (encodable : Encodable (c :: rest)) :
    readings (c :: rest) (List.range c.width) = [(0, c)] := by
  have here : charAt (c :: rest) (0 : Nat) = .ok c :=
    charAt_eq_ok_iff.mpr ⟨encodable, [], rest, rfl, rfl⟩
  obtain ⟨more, width_eq⟩ := Nat.exists_eq_add_one.mpr c.width_pos
  have inside : ∀ offset ∈ (List.range more).map Nat.succ, reading? (c :: rest) offset = none := by
    intro offset listed
    obtain ⟨before, bounded, rfl⟩ := List.mem_map.mp listed
    have := List.mem_range.mp bounded
    refine reading?_of_error (charAt_of_isInside encodable (isInside_cons_iff.mpr (.inl ?_)))
    exact ⟨by omega, by omega⟩
  rw [readings, width_eq, List.range_succ_eq_map, List.filterMap_cons_some (reading?_of_ok here),
    List.filterMap_eq_nil_iff.mpr inside]

theorem reading?_cons (encodable : Encodable (c :: rest)) (before_end : offset < rest.width) :
    reading? (c :: rest) (c.width + offset) =
      (rest.reading? offset).map fun read => (c.width + read.1, read.2) := by
  have shifted (d : CodePoint) :
      charAt (c :: rest) (c.width + offset : Nat) = .ok d ↔ rest.charAt offset = .ok d := by
    have around : [c] ++ rest ++ [] = c :: rest := List.append_nil (c :: rest)
    rw [Int.natCast_add, ← charAt_append_append_iff (around.symm ▸ encodable)
      (Int.natCast_nonneg offset) (Int.ofNat_lt.mpr before_end), around]
    rfl
  cases found : rest.charAt offset with
  | ok d =>
    rw [reading?_of_ok found, reading?_of_ok ((shifted d).mpr found)]
    rfl
  | error broken =>
    rw [reading?_of_error found]
    cases found' : charAt (c :: rest) (c.width + offset : Nat) with
    | ok d => cases found.symm.trans ((shifted d).mp found')
    | error broken' => exact reading?_of_error found'

/-- The readings of a text are that of its first character and, shifted, those of the rest. -/
theorem readings_range_cons (encodable : Encodable (c :: rest)) :
    readings (c :: rest) (List.range (width (c :: rest))) =
      (0, c) :: (rest.readings (List.range rest.width)).map fun read =>
        (c.width + read.1, read.2) := by
  have later : ((List.range rest.width).map (c.width + ·)).filterMap (reading? (c :: rest)) =
      (rest.readings (List.range rest.width)).map fun read => (c.width + read.1, read.2) := by
    rw [readings, List.filterMap_map, List.map_filterMap]
    refine List.filterMap_congr fun offset listed => ?_
    exact reading?_cons encodable (List.mem_range.mp listed)
  have first := readings_range_width encodable
  rw [readings] at first
  rw [width_cons, readings, List.range_add, List.filterMap_append, first, later]
  rfl

theorem map_snd_readings_range (encodable : text.Encodable) :
    (text.readings (List.range text.width)).map Prod.snd = text := by
  induction text with
  | nil => rfl
  | cons c rest ih =>
    rw [readings_range_cons encodable, List.map_cons, List.map_map]
    exact congrArg (c :: ·) (ih (encodable_cons_iff.mp encodable).2)

/-- From each reading to the next it is the width of a character. -/
theorem isChain_readings_range (encodable : text.Encodable) :
    (text.readings (List.range text.width)).IsChain Adjacent := by
  induction text with
  | nil => exact .nil
  | cons c rest ih =>
    obtain ⟨scalar, rest_encodable⟩ := encodable_cons_iff.mp encodable
    rw [readings_range_cons encodable, List.isChain_cons, List.isChain_map]
    refine ⟨?_, (ih rest_encodable).imp ?_⟩
    · intro next is_next
      cases rest with
      | nil => cases is_next
      | cons d rest =>
        rw [readings_range_cons rest_encodable] at is_next
        cases is_next
        have measured : size [c] = .ok c.width :=
          size_eq_ok_iff.mpr ⟨List.forall_mem_singleton.mpr scalar, rfl⟩
        exact ⟨c.width, measured, Nat.add_comm c.width 0, c.width_pos, c.width_le_four⟩
    · rintro here next ⟨width, measured, next_eq, bounds⟩
      exact ⟨width, measured, by omega, bounds⟩

end Readings

/-! ## Going on behind each token -/

/-- The character at `here` can be reported as an unexpected token, and `next` is behind the
token. -/
structure Advances (line : Text) (here : Nat) (token : Text) (next : Nat) : Prop where
  /-- The token of the report is derived from the line. -/
  reported : (Finding.unexpectedToken line here).toFault = pure (.unexpectedToken line here token)
  /-- The size of the token leads on. -/
  measured : token.size.map (here + ·) = .ok next

/-- A scan from `here` to `last` reports the tokens one after the other, each behind the one
before. -/
inductive Scan (line : Text) : (here : Nat) → (tokens : List Text) → (last : Nat) → Prop where
  /-- The scan stops where it is. -/
  | stop {here : Nat} : Scan line here [] here
  /-- The scan reports a token and goes on behind it. -/
  | next {here next last : Nat} {token : Text} {tokens : List Text} :
      line.Advances here token next → Scan line next tokens last →
      Scan line here (token :: tokens) last

end Text

/-- An unexpected token can be reported where a character is read, and the character is the
token. -/
theorem Finding.unexpectedToken_eq_pure_iff {line : Text} {index : Int} {fault : Fault} :
    (unexpectedToken line index).toFault = pure fault ↔
      ∃ c, line.charAt index = .ok c ∧ fault = .unexpectedToken line index [c] := by
  constructor
  · intro made
    exact OmitsToken.unexpectedToken.toFault_eq_ok_iff.mp (congrArg Attempt.result made)
  · rintro ⟨c, found, rfl⟩
    exact OmitsToken.unexpectedToken.toFault_of_ok found

namespace Text

section Scan

variable {line before rest token : Text} {here next last : Nat} {tokens : List Text}

theorem advances_iff :
    line.Advances here token next ↔
      ∃ c, line.charAt here = .ok c ∧ token = [c] ∧ next = here + c.width := by
  have measured (c : CodePoint) (found : line.charAt here = .ok c) : size [c] = .ok c.width := by
    obtain ⟨encodable, before, after, rfl, -⟩ := charAt_eq_ok_iff.mp found
    have scalar := encodable c (List.mem_append_right _ (List.mem_cons_self ..))
    exact size_eq_ok_iff.mpr ⟨List.forall_mem_singleton.mpr scalar, rfl⟩
  constructor
  · rintro ⟨reported, next_eq⟩
    obtain ⟨c, found, same⟩ := Finding.unexpectedToken_eq_pure_iff.mp reported
    cases same
    rw [measured c found] at next_eq
    cases next_eq
    exact ⟨c, found, rfl, rfl⟩
  · rintro ⟨c, found, rfl, rfl⟩
    refine ⟨Finding.unexpectedToken_eq_pure_iff.mpr ⟨c, found, rfl⟩, ?_⟩
    rw [measured c found]
    rfl

/-- Between two characters a scan advances past the second one. -/
theorem advances_append_iff (encodable : Encodable (before ++ rest)) :
    (before ++ rest).Advances before.width token next ↔
      ∃ c after, rest = c :: after ∧ token = [c] ∧ next = width (before ++ [c]) := by
  rw [advances_iff]
  cases rest with
  | nil =>
    have at_end : (width (before ++ []) : Int) ≤ before.width :=
      Int.ofNat_le.mpr (Nat.le_of_eq (congrArg width (List.append_nil before)))
    rw [charAt_of_le encodable at_end]
    exact iff_of_false (fun ⟨_, h, _⟩ => nomatch h) fun ⟨_, _, h, _⟩ => nomatch h
  | cons d after =>
    rw [charAt_append encodable]
    constructor
    · rintro ⟨c, same, token_eq, next_eq⟩
      cases same
      exact ⟨d, after, rfl, token_eq, by rw [next_eq, width_append]; rfl⟩
    · rintro ⟨c, after', same, token_eq, next_eq⟩
      cases same
      exact ⟨d, rfl, token_eq, by rw [next_eq, width_append]; rfl⟩

/-- A scan from between two characters reads some of the characters that follow, one a token, and
comes to the offset behind them. -/
theorem scan_iff (encodable : Encodable (before ++ rest)) :
    (before ++ rest).Scan before.width tokens last ↔
      ∃ read left, rest = read ++ left ∧ tokens = read.map (fun c => [c]) ∧
        last = width (before ++ read) := by
  induction tokens generalizing before rest with
  | nil =>
    constructor
    · intro scan
      cases scan
      exact ⟨[], rest, rfl, rfl, by rw [List.append_nil]⟩
    · rintro ⟨read, left, -, tokens_eq, rfl⟩
      obtain rfl := List.map_eq_nil_iff.mp tokens_eq.symm
      rw [List.append_nil]
      exact .stop
  | cons token tokens ih =>
    -- Behind its first token the scan is between two characters again.
    have onward {c : CodePoint} {after : Text} (rest_eq : rest = c :: after) :
        (before ++ rest).Scan (width (before ++ [c])) tokens last ↔
          ∃ read left, after = read ++ left ∧ tokens = read.map (fun c => [c]) ∧
            last = width (before ++ [c] ++ read) := by
      have line_eq : before ++ rest = before ++ [c] ++ after := by
        rw [rest_eq, List.append_assoc, List.singleton_append]
      rw [line_eq] at encodable ⊢
      exact ih encodable
    constructor
    · intro scan
      cases scan with
      | next advances scan =>
        obtain ⟨c, after, rest_eq, rfl, rfl⟩ := (advances_append_iff encodable).mp advances
        obtain ⟨read, left, rfl, rfl, rfl⟩ := (onward rest_eq).mp scan
        exact ⟨c :: read, left, rest_eq, rfl, by rw [List.append_assoc, List.singleton_append]⟩
    · rintro ⟨read, left, rest_eq, tokens_eq, last_eq⟩
      obtain ⟨c, read, rfl, rfl, rfl⟩ := List.map_eq_cons_iff.mp tokens_eq.symm
      refine .next ((advances_append_iff encodable).mpr ⟨c, read ++ left, rest_eq, rfl, rfl⟩) ?_
      refine (onward rest_eq).mpr ⟨read, left, rfl, rfl, ?_⟩
      rw [last_eq, List.append_assoc, List.singleton_append]

end Scan

/-- In an encodable line every character is read once.  The offsets before the end give the
characters in order, each at one offset, and from each such offset to the next it is the width of
the character.  A scan that goes on behind each token is never beyond the end and goes on wherever
it is in front of it.  There is one scan to the end: it has as many tokens as the line has
characters, and together they are the line.  At the end no token is left. -/
theorem characters_read_once {line : Text} (encodable : line.Encodable) :
    ∃ size, line.size = .ok size ∧
      ((line.readings (List.range size)).map Prod.snd = line ∧
        (line.readings (List.range size)).length = line.length ∧
        (∀ offset c, (offset, c) ∈ line.readings (List.range size) ↔ line.charAt offset = .ok c) ∧
        (line.readings (List.range size)).IsChain Adjacent) ∧
      (∀ tokens last, line.Scan 0 tokens last →
        last ≤ size ∧ (last ≠ size → ∃ token next, line.Advances last token next)) ∧
      (∃ tokens, (∀ others, line.Scan 0 others size ↔ others = tokens) ∧
        tokens.length = line.length ∧ tokens.flatten = line) ∧
      (Finding.unexpectedToken line size).toFault =
        .refuse (Violation.characterOutside size line).refusal := by
  have scan_from_start {tokens : List Text} {last : Nat} :
      line.Scan 0 tokens last ↔ ∃ read left, line = read ++ left ∧
        tokens = read.map (fun c => [c]) ∧ last = width read :=
    @scan_iff [] line last tokens encodable
  have read_all := map_snd_readings_range encodable
  refine ⟨line.width, size_eq_ok_iff.mpr ⟨encodable, rfl⟩,
    ⟨read_all, ?_, fun offset c => mem_readings_range_iff, isChain_readings_range encodable⟩,
    ?_, ⟨line.map fun c => [c], ?_, List.length_map .., List.flatMap_singleton' line⟩, ?_⟩
  · rw [← List.length_map Prod.snd, read_all]
  · intro tokens last scan
    obtain ⟨read, left, rfl, -, rfl⟩ := scan_from_start.mp scan
    rw [width_append]
    refine ⟨Nat.le_add_right .., fun before_end => ?_⟩
    cases left with
    | nil => exact absurd rfl before_end
    | cons c left =>
      exact ⟨[c], _, (advances_append_iff encodable).mpr ⟨c, left, rfl, rfl, rfl⟩⟩
  · intro others
    rw [scan_from_start]
    constructor
    · rintro ⟨read, left, line_eq, rfl, width_eq⟩
      rw [line_eq, width_append] at width_eq
      obtain rfl := width_eq_zero_iff.mp (show width left = 0 by omega)
      rw [line_eq, List.append_nil]
    · rintro rfl
      exact ⟨line, [], (List.append_nil line).symm, rfl, rfl⟩
  · have refused := charAt_of_le encodable (Int.le_refl (line.width : Int))
    exact (Finding.toFault_of_charAt_eq_error refused []).2

/-- Three characters of one, two and four bytes are read at three of the seven offsets.  One scan
leads to the end, with three tokens, and none leads to the middle of a character. -/
theorem characters_read_once_three_widths :
    Encodable "aé😀" ∧ size "aé😀" = .ok 7 ∧
      (readings "aé😀" (List.range 7)).map Prod.snd = "aé😀" ∧
      (readings "aé😀" (List.range 7)).length = 3 ∧
      charAt "aé😀" 1 = .ok (.ofChar 'é') ∧
      ((1, .ofChar 'é') ∈ readings "aé😀" (List.range 7)) ∧
      (∃ tokens, Scan "aé😀" 0 tokens 7 ∧ tokens.length = 3 ∧ tokens.flatten = "aé😀") ∧
      ∀ tokens, ¬ Scan "aé😀" 0 tokens 2 := by
  have encodable : Encodable "aé😀" := by decide
  obtain ⟨size, measured, ⟨characters, count, places, -⟩, bounded, ⟨tokens, scans, whole⟩, -⟩ :=
    characters_read_once encodable
  cases measured
  have second : charAt "aé😀" 1 = .ok (.ofChar 'é') := rfl
  refine ⟨encodable, rfl, characters, count, second, (places 1 _).mpr second,
    ⟨tokens, (scans tokens).mpr rfl, whole⟩, ?_⟩
  intro tokens scan
  obtain ⟨token, next, advances⟩ := (bounded tokens 2 scan).2 (by decide)
  obtain ⟨c, found, -⟩ := advances_iff.mp advances
  cases found

end Text

end ScanFault
