import ScanFault.Offset.Basic

/-!
# Boundaries

An offset is a boundary when it is the width of a beginning of the text (`Text.IsBoundary`).  A cut
at a boundary separates that beginning from the rest, and the character there is the first of the
rest.  Before the end, every other offset lies inside a code point (`Text.isInside_iff`).

A walk only measures code points of a text that was found encodable before, so no code point is
refused on the way.  What is left are two ends.  `Text.charFrom_append` and `Text.cutFrom_append`
say that a walk stops at a boundary.  `Text.charFrom_cases` and `Text.cutFrom_cases` say that it
refuses every other target as inside a character.

`Text.charAt_outcome` and `Text.cutAt_outcome` sum this up for the checked access at any index.  The
rest is read off from them.
-/

namespace ScanFault

namespace Text

/-! ## Encodable texts -/

theorem encodable_cons_iff {c : CodePoint} {rest : Text} :
    Encodable (c :: rest) ↔ c.isSurrogate = false ∧ rest.Encodable :=
  List.forall_mem_cons

theorem encodable_append_iff {before after : Text} :
    Encodable (before ++ after) ↔ before.Encodable ∧ after.Encodable :=
  List.forall_mem_append

/-! ## Widths -/

@[simp] theorem width_nil : width [] = 0 := rfl

@[simp] theorem width_cons (c : CodePoint) (rest : Text) :
    width (c :: rest) = c.width + width rest := rfl

@[simp] theorem width_append (before after : Text) :
    (before ++ after).width = before.width + after.width := by
  induction before with
  | nil => simp
  | cons c before ih => simp [ih, Nat.add_assoc]

theorem size_of_encodable {text : Text} (encodable : text.Encodable) :
    text.size = .ok text.width :=
  if_pos encodable

theorem size_of_not_encodable {text : Text} (unencodable : ¬ text.Encodable) :
    text.size = .error (.unencodable text) :=
  if_neg unencodable

theorem size_eq_ok_iff {text : Text} {size : Nat} :
    text.size = .ok size ↔ text.Encodable ∧ text.width = size := by
  by_cases encodable : text.Encodable
  · rw [size_of_encodable encodable, Except.ok.injEq, and_iff_right encodable]
  · rw [size_of_not_encodable encodable]
    exact iff_of_false (fun h => nomatch h) fun h => encodable h.1

/-! ## Boundaries -/

/-- The offset is the width of a beginning of the text. -/
def IsBoundary (text : Text) (offset : Nat) : Prop :=
  ∃ before after, before ++ after = text ∧ width before = offset

theorem isBoundary_zero (text : Text) : text.IsBoundary 0 := ⟨[], text, rfl, rfl⟩

theorem isBoundary_width (text : Text) : text.IsBoundary text.width :=
  ⟨text, [], List.append_nil text, rfl⟩

theorem isBoundary_cons_iff {c : CodePoint} {rest : Text} {offset : Nat} :
    IsBoundary (c :: rest) offset ↔
      offset = 0 ∨ c.width ≤ offset ∧ rest.IsBoundary (offset - c.width) := by
  constructor
  · intro h
    obtain ⟨before, after, text_eq, rfl⟩ := h
    cases before with
    | nil => exact .inl rfl
    | cons d before =>
      rw [List.cons_append, List.cons.injEq] at text_eq
      obtain ⟨rfl, rest_eq⟩ := text_eq
      refine .inr ⟨by rw [width_cons]; omega, before, after, rest_eq, ?_⟩
      rw [width_cons, Nat.add_sub_cancel_left]
  · rintro (rfl | ⟨fits, before, after, rfl, width_eq⟩)
    · exact isBoundary_zero (c :: rest)
    · exact ⟨c :: before, after, rfl, by rw [width_cons, width_eq, Nat.add_sub_cancel' fits]⟩

/-- The index lies strictly inside a code point of the text. -/
def IsInside (text : Text) (index : Int) : Prop :=
  ∃ before c after, text = before ++ c :: after ∧
    (width before : Int) < index ∧ index < width before + c.width

theorem IsInside.pos {text : Text} {index : Int} (inside : text.IsInside index) : 0 < index := by
  obtain ⟨before, c, after, -, behind, -⟩ := inside
  omega

theorem isInside_cons_iff {c : CodePoint} {rest : Text} {index : Int} :
    IsInside (c :: rest) index ↔
      (0 < index ∧ index < c.width) ∨ rest.IsInside (index - c.width) := by
  constructor
  · intro h
    obtain ⟨before, d, after, text_eq, behind, ahead⟩ := h
    cases before with
    | nil =>
      rw [List.nil_append, List.cons.injEq] at text_eq
      obtain ⟨rfl, -⟩ := text_eq
      rw [width_nil] at behind ahead
      exact .inl ⟨by omega, by omega⟩
    | cons e before =>
      rw [List.cons_append, List.cons.injEq] at text_eq
      obtain ⟨rfl, rest_eq⟩ := text_eq
      rw [width_cons] at behind ahead
      exact .inr ⟨before, d, after, rest_eq, by omega, by omega⟩
  · rintro (⟨behind, ahead⟩ | ⟨before, d, after, rfl, behind, ahead⟩)
    · exact ⟨[], c, rest, rfl, by rw [width_nil]; omega, by rw [width_nil]; omega⟩
    · exact ⟨c :: before, d, after, rfl, by rw [width_cons]; omega, by rw [width_cons]; omega⟩

/-- Before the end, an offset lies inside a code point unless it is a boundary. -/
theorem isInside_iff {text : Text} {offset : Nat} :
    text.IsInside offset ↔ offset < text.width ∧ ¬ text.IsBoundary offset := by
  induction text generalizing offset with
  | nil =>
    refine iff_of_false ?_ fun h => Nat.not_lt_zero offset h.1
    rintro ⟨before, c, after, text_eq, -, -⟩
    cases before with
    | nil => cases text_eq
    | cons d before => cases text_eq
  | cons c rest ih =>
    rw [isInside_cons_iff, isBoundary_cons_iff, width_cons]
    rcases Nat.lt_or_ge offset c.width with ahead | behind
    · have outside : ¬ IsInside rest (offset - c.width) := fun inside => by
        have := inside.pos
        omega
      rw [or_iff_left outside]
      omega
    · have := c.width_pos
      rw [or_iff_right (by omega), ← Int.ofNat_sub behind, ih, or_iff_right (by omega),
        and_iff_right behind]
      exact and_congr_left fun _ => by omega

/-! ## Walks -/

section Walks

variable {target offset : Nat} {inside : Violation} {c : CodePoint} {rest : Text}

theorem charFrom_here : charFrom offset inside offset (c :: rest) = .ok c := by
  rw [charFrom, if_pos rfl]

theorem charFrom_beyond (beyond : target < offset) :
    charFrom target inside offset rest = .error inside := by
  cases rest with
  | nil => rfl
  | cons c rest => rw [charFrom, if_neg (by omega), if_pos beyond]

theorem charFrom_before (before : offset < target) (scalar : c.isSurrogate = false) :
    charFrom target inside offset (c :: rest) = charFrom target inside (offset + c.width) rest := by
  have size_eq : size [c] = .ok c.width :=
    size_eq_ok_iff.mpr ⟨List.forall_mem_singleton.mpr scalar, rfl⟩
  rw [charFrom, if_neg (by omega), if_neg (by omega), size_eq]
  rfl

theorem cutFrom_here : cutFrom offset inside offset rest = .ok ([], rest) := by
  cases rest with
  | nil => rw [cutFrom, if_pos rfl]
  | cons c rest => rw [cutFrom, if_pos rfl]

theorem cutFrom_beyond (beyond : target < offset) :
    cutFrom target inside offset rest = .error inside := by
  cases rest with
  | nil => rw [cutFrom, if_neg (by omega)]
  | cons c rest => rw [cutFrom, if_neg (by omega), if_pos beyond]

theorem cutFrom_end (before : offset < target) :
    cutFrom target inside offset [] = .error inside := by
  rw [cutFrom, if_neg (by omega)]

theorem cutFrom_before (before : offset < target) (scalar : c.isSurrogate = false) :
    cutFrom target inside offset (c :: rest) =
      (cutFrom target inside (offset + c.width) rest).map fun parts => (c :: parts.1, parts.2) := by
  have size_eq : size [c] = .ok c.width :=
    size_eq_ok_iff.mpr ⟨List.forall_mem_singleton.mpr scalar, rfl⟩
  rw [cutFrom, if_neg (by omega), if_neg (by omega), size_eq]
  cases found : cutFrom target inside (offset + c.width) rest with
  | error broken => simp only [bind, Except.bind, found, Except.map]
  | ok parts => simp only [bind, Except.bind, found, pure, Except.pure, Except.map]

theorem charFrom_append {before : Text} (encodable : before.Encodable) (c : CodePoint) (rest : Text)
    (offset : Nat) (inside : Violation) :
    charFrom (offset + before.width) inside offset (before ++ c :: rest) = .ok c := by
  induction before generalizing offset with
  | nil => exact charFrom_here
  | cons d before ih =>
    obtain ⟨scalar, encodable⟩ := encodable_cons_iff.mp encodable
    have := d.width_pos
    rw [List.cons_append, charFrom_before (by rw [width_cons]; omega) scalar, width_cons,
      ← Nat.add_assoc]
    exact ih encodable (offset + d.width)

theorem cutFrom_append {before : Text} (encodable : before.Encodable) (rest : Text) (offset : Nat)
    (inside : Violation) :
    cutFrom (offset + before.width) inside offset (before ++ rest) = .ok (before, rest) := by
  induction before generalizing offset with
  | nil => exact cutFrom_here
  | cons d before ih =>
    obtain ⟨scalar, encodable⟩ := encodable_cons_iff.mp encodable
    have := d.width_pos
    rw [List.cons_append, cutFrom_before (by rw [width_cons]; omega) scalar, width_cons,
      ← Nat.add_assoc, ih encodable]
    rfl

/-- In an encodable text a walk finds a code point that starts at the target, or it refuses the
target as inside. -/
theorem charFrom_cases {text : Text} (encodable : text.Encodable) (target offset : Nat)
    (inside : Violation) :
    (∃ before c after, text = before ++ c :: after ∧ offset + width before = target) ∨
      charFrom target inside offset text = .error inside := by
  induction text generalizing offset with
  | nil => exact .inr rfl
  | cons c rest ih =>
    obtain ⟨scalar, encodable⟩ := encodable_cons_iff.mp encodable
    rcases Nat.lt_trichotomy offset target with before | rfl | beyond
    · rw [charFrom_before before scalar]
      rcases ih encodable (offset + c.width) with ⟨parts, d, after, rfl, width_eq⟩ | refused
      · exact .inl ⟨c :: parts, d, after, rfl, by rw [width_cons, ← width_eq, Nat.add_assoc]⟩
      · exact .inr refused
    · exact .inl ⟨[], c, rest, rfl, rfl⟩
    · exact .inr (charFrom_beyond beyond)

/-- In an encodable text a walk makes a cut at the target, or it refuses the target as inside. -/
theorem cutFrom_cases {text : Text} (encodable : text.Encodable) (target offset : Nat)
    (inside : Violation) :
    (∃ before after, before ++ after = text ∧ offset + before.width = target) ∨
      cutFrom target inside offset text = .error inside := by
  induction text generalizing offset with
  | nil =>
    rcases Nat.lt_trichotomy offset target with before | rfl | beyond
    · exact .inr (cutFrom_end before)
    · exact .inl ⟨[], [], rfl, rfl⟩
    · exact .inr (cutFrom_beyond beyond)
  | cons c rest ih =>
    obtain ⟨scalar, encodable⟩ := encodable_cons_iff.mp encodable
    rcases Nat.lt_trichotomy offset target with before | rfl | beyond
    · rw [cutFrom_before before scalar]
      rcases ih encodable (offset + c.width) with ⟨first, second, rfl, width_eq⟩ | refused
      · exact .inl ⟨c :: first, second, rfl, by rw [width_cons, ← width_eq, Nat.add_assoc]⟩
      · rw [refused]
        exact .inr rfl
    · exact .inl ⟨[], c :: rest, rfl, rfl⟩
    · exact .inr (cutFrom_beyond beyond)

end Walks

/-! ## Checked access -/

section Access

variable {text : Text} {index : Int} {outside : Violation} {offset : Nat}

theorem offsetBefore_of_neg (negative : index < 0) :
    text.offsetBefore index outside = .error outside :=
  if_pos negative

theorem offsetBefore_of_not_encodable (nonneg : 0 ≤ index) (unencodable : ¬ text.Encodable) :
    text.offsetBefore index outside = .error (.unencodable text) := by
  rw [offsetBefore, if_neg (by omega), size_of_not_encodable unencodable]
  rfl

theorem offsetBefore_of_encodable (nonneg : 0 ≤ index) (encodable : text.Encodable) :
    text.offsetBefore index outside =
      if index < text.width then .ok index.toNat else .error outside := by
  rw [offsetBefore, if_neg (by omega), size_of_encodable encodable]
  rfl

theorem offsetBefore_eq_ok_iff :
    text.offsetBefore index outside = .ok offset ↔
      text.Encodable ∧ (offset : Int) = index ∧ offset < text.width := by
  rcases Int.lt_or_le index 0 with negative | nonneg
  · rw [offsetBefore_of_neg negative]
    exact iff_of_false (fun h => nomatch h) (by omega)
  · by_cases encodable : text.Encodable
    · rw [offsetBefore_of_encodable nonneg encodable, and_iff_right encodable]
      split
      next inside =>
        rw [Except.ok.injEq]
        omega
      next beyond => exact iff_of_false (fun h => nomatch h) (by omega)
    · rw [offsetBefore_of_not_encodable nonneg encodable]
      exact iff_of_false (fun h => nomatch h) fun h => encodable h.1

theorem offsetUpTo_of_neg (negative : index < 0) :
    text.offsetUpTo index outside = .error outside :=
  if_pos negative

theorem offsetUpTo_of_not_encodable (nonneg : 0 ≤ index) (unencodable : ¬ text.Encodable) :
    text.offsetUpTo index outside = .error (.unencodable text) := by
  rw [offsetUpTo, if_neg (by omega), size_of_not_encodable unencodable]
  rfl

theorem offsetUpTo_of_encodable (nonneg : 0 ≤ index) (encodable : text.Encodable) :
    text.offsetUpTo index outside =
      if index ≤ text.width then .ok index.toNat else .error outside := by
  rw [offsetUpTo, if_neg (by omega), size_of_encodable encodable]
  rfl

theorem charAt_of_neg (negative : index < 0) :
    text.charAt index = .error (.characterOutside index text) := by
  rw [charAt, offsetBefore_of_neg negative]
  rfl

theorem charAt_of_not_encodable (nonneg : 0 ≤ index) (unencodable : ¬ text.Encodable) :
    text.charAt index = .error (.unencodable text) := by
  rw [charAt, offsetBefore_of_not_encodable nonneg unencodable]
  rfl

theorem charAt_of_le (encodable : text.Encodable) (beyond : text.width ≤ index) :
    text.charAt index = .error (.characterOutside index text) := by
  rw [charAt, offsetBefore_of_encodable (by omega) encodable, if_neg (by omega)]
  rfl

theorem charAt_of_lt (encodable : text.Encodable) (nonneg : 0 ≤ index)
    (inside : index < text.width) :
    text.charAt index = charFrom index.toNat (.characterInside index text) 0 text := by
  rw [charAt, offsetBefore_of_encodable nonneg encodable, if_pos inside]
  rfl

theorem cutAt_of_neg (negative : index < 0) :
    text.cutAt index = .error (.cutOutside index text) := by
  rw [cutAt, offsetUpTo_of_neg negative]
  rfl

theorem cutAt_of_not_encodable (nonneg : 0 ≤ index) (unencodable : ¬ text.Encodable) :
    text.cutAt index = .error (.unencodable text) := by
  rw [cutAt, offsetUpTo_of_not_encodable nonneg unencodable]
  rfl

theorem cutAt_of_lt (encodable : text.Encodable) (beyond : text.width < index) :
    text.cutAt index = .error (.cutOutside index text) := by
  rw [cutAt, offsetUpTo_of_encodable (by omega) encodable, if_neg (by omega)]
  rfl

theorem cutAt_of_le (encodable : text.Encodable) (nonneg : 0 ≤ index)
    (inside : index ≤ text.width) :
    text.cutAt index = cutFrom index.toNat (.cutInside index text) 0 text := by
  rw [cutAt, offsetUpTo_of_encodable nonneg encodable, if_pos inside]
  rfl

end Access

theorem charAt_append {before after : Text} {c : CodePoint}
    (encodable : Encodable (before ++ c :: after)) :
    charAt (before ++ c :: after) before.width = .ok c := by
  have shorter : (before.width : Int) < (before ++ c :: after).width := by
    have := c.width_pos
    rw [width_append, width_cons]
    omega
  have found := charFrom_append (encodable_append_iff.mp encodable).1 c after 0
    (.characterInside before.width (before ++ c :: after))
  rw [Nat.zero_add] at found
  rw [charAt_of_lt encodable (by omega) shorter]
  exact found

/-- A cut at the width of an encodable beginning separates it from the rest. -/
theorem cutAt_append {before after : Text} (encodable : Encodable (before ++ after)) :
    cutAt (before ++ after) before.width = .ok (before, after) := by
  have shorter : (before.width : Int) ≤ (before ++ after).width := by
    rw [width_append]
    omega
  have found := cutFrom_append (encodable_append_iff.mp encodable).1 after 0
    (.cutInside before.width (before ++ after))
  rw [Nat.zero_add] at found
  rw [cutAt_of_le encodable (by omega) shorter]
  exact found

theorem charAt_cases {text : Text} {index : Int} (encodable : text.Encodable) (nonneg : 0 ≤ index)
    (inside : index < text.width) :
    (∃ before c after, text = before ++ c :: after ∧ (width before : Int) = index) ∨
      text.charAt index = .error (.characterInside index text) := by
  rw [charAt_of_lt encodable nonneg inside]
  rcases charFrom_cases encodable index.toNat 0 (.characterInside index text) with
    ⟨before, c, after, text_eq, width_eq⟩ | refused
  · exact .inl ⟨before, c, after, text_eq, by omega⟩
  · exact .inr refused

/-- At an index up to the end of an encodable text, a cut can be made or the index is refused as
inside a character. -/
theorem cutAt_cases {text : Text} {index : Int} (encodable : text.Encodable) (nonneg : 0 ≤ index)
    (inside : index ≤ text.width) :
    (∃ before after, before ++ after = text ∧ (before.width : Int) = index) ∨
      text.cutAt index = .error (.cutInside index text) := by
  rw [cutAt_of_le encodable nonneg inside]
  rcases cutFrom_cases encodable index.toNat 0 (.cutInside index text) with
    ⟨before, after, text_eq, width_eq⟩ | refused
  · exact .inl ⟨before, after, text_eq, by omega⟩
  · exact .inr refused

/-- What becomes of a character at any index.  The refusals stand in the order of the checks. -/
theorem charAt_outcome (text : Text) (index : Int) :
    (index < 0 ∧ text.charAt index = .error (.characterOutside index text)) ∨
    (0 ≤ index ∧ ¬ text.Encodable ∧ text.charAt index = .error (.unencodable text)) ∨
    (text.Encodable ∧ text.width ≤ index ∧
      text.charAt index = .error (.characterOutside index text)) ∨
    (text.Encodable ∧ 0 ≤ index ∧ index < text.width ∧
      text.charAt index = .error (.characterInside index text)) ∨
    (text.Encodable ∧ ∃ before c after, text = before ++ c :: after ∧
      (width before : Int) = index ∧ text.charAt index = .ok c) := by
  rcases Int.lt_or_le index 0 with negative | nonneg
  · exact .inl ⟨negative, charAt_of_neg negative⟩
  by_cases encodable : text.Encodable
  · rcases Int.lt_or_le index text.width with inside | beyond
    · rcases charAt_cases encodable nonneg inside with ⟨before, c, after, rfl, rfl⟩ | refused
      · exact .inr (.inr (.inr (.inr
          ⟨encodable, before, c, after, rfl, rfl, charAt_append encodable⟩)))
      · exact .inr (.inr (.inr (.inl ⟨encodable, nonneg, inside, refused⟩)))
    · exact .inr (.inr (.inl ⟨encodable, beyond, charAt_of_le encodable beyond⟩))
  · exact .inr (.inl ⟨nonneg, encodable, charAt_of_not_encodable nonneg encodable⟩)

/-- What becomes of a cut at any index.  The refusals stand in the order of the checks. -/
theorem cutAt_outcome (text : Text) (index : Int) :
    (index < 0 ∧ text.cutAt index = .error (.cutOutside index text)) ∨
    (0 ≤ index ∧ ¬ text.Encodable ∧ text.cutAt index = .error (.unencodable text)) ∨
    (text.Encodable ∧ text.width < index ∧ text.cutAt index = .error (.cutOutside index text)) ∨
    (text.Encodable ∧ 0 ≤ index ∧ index ≤ text.width ∧
      text.cutAt index = .error (.cutInside index text)) ∨
    (text.Encodable ∧ ∃ before after, before ++ after = text ∧ (before.width : Int) = index ∧
      text.cutAt index = .ok (before, after)) := by
  rcases Int.lt_or_le index 0 with negative | nonneg
  · exact .inl ⟨negative, cutAt_of_neg negative⟩
  by_cases encodable : text.Encodable
  · rcases Int.lt_or_le text.width index with beyond | inside
    · exact .inr (.inr (.inl ⟨encodable, beyond, cutAt_of_lt encodable beyond⟩))
    · rcases cutAt_cases encodable nonneg inside with ⟨before, after, rfl, rfl⟩ | refused
      · exact .inr (.inr (.inr (.inr ⟨encodable, before, after, rfl, rfl, cutAt_append encodable⟩)))
      · exact .inr (.inr (.inr (.inl ⟨encodable, nonneg, inside, refused⟩)))
  · exact .inr (.inl ⟨nonneg, encodable, cutAt_of_not_encodable nonneg encodable⟩)

theorem charAt_eq_ok_iff {text : Text} {index : Int} {c : CodePoint} :
    text.charAt index = .ok c ↔
      text.Encodable ∧ ∃ before after,
        text = before ++ c :: after ∧ (before.width : Int) = index := by
  constructor
  · intro found
    rcases text.charAt_outcome index with ⟨-, refused⟩ | ⟨-, -, refused⟩ | ⟨-, -, refused⟩ |
      ⟨-, -, -, refused⟩ | ⟨encodable, before, d, after, text_eq, width_eq, found'⟩
    · cases found.symm.trans refused
    · cases found.symm.trans refused
    · cases found.symm.trans refused
    · cases found.symm.trans refused
    · cases found.symm.trans found'
      exact ⟨encodable, before, after, text_eq, width_eq⟩
  · intro h
    obtain ⟨encodable, before, after, rfl, rfl⟩ := h
    exact charAt_append encodable

theorem cutAt_eq_ok_iff {text : Text} {index : Int} {before after : Text} :
    text.cutAt index = .ok (before, after) ↔
      text.Encodable ∧ before ++ after = text ∧ (before.width : Int) = index := by
  constructor
  · intro made
    rcases text.cutAt_outcome index with ⟨-, refused⟩ | ⟨-, -, refused⟩ | ⟨-, -, refused⟩ |
      ⟨-, -, -, refused⟩ | ⟨encodable, first, second, text_eq, width_eq, made'⟩
    · cases made.symm.trans refused
    · cases made.symm.trans refused
    · cases made.symm.trans refused
    · cases made.symm.trans refused
    · cases made.symm.trans made'
      exact ⟨encodable, text_eq, width_eq⟩
  · intro h
    obtain ⟨encodable, rfl, rfl⟩ := h
    exact cutAt_append encodable

theorem size_eq_error {text : Text} {broken : Violation} (refused : text.size = .error broken) :
    broken = .unencodable text := by
  by_cases encodable : text.Encodable
  · cases refused.symm.trans (size_of_encodable encodable)
  · exact Except.error.inj (refused.symm.trans (size_of_not_encodable encodable))

/-- A character is refused for one of three reasons. -/
theorem charAt_eq_error {text : Text} {index : Int} {broken : Violation}
    (refused : text.charAt index = .error broken) :
    broken = .characterOutside index text ∨ broken = .unencodable text ∨
      broken = .characterInside index text := by
  rcases text.charAt_outcome index with ⟨-, outside⟩ | ⟨-, -, unencodable⟩ | ⟨-, -, outside⟩ |
    ⟨-, -, -, inside⟩ | ⟨-, before, c, after, -, -, found⟩
  · exact .inl (Except.error.inj (refused.symm.trans outside))
  · exact .inr (.inl (Except.error.inj (refused.symm.trans unencodable)))
  · exact .inl (Except.error.inj (refused.symm.trans outside))
  · exact .inr (.inr (Except.error.inj (refused.symm.trans inside)))
  · cases refused.symm.trans found

/-- A cut is refused for one of three reasons. -/
theorem cutAt_eq_error {text : Text} {index : Int} {broken : Violation}
    (refused : text.cutAt index = .error broken) :
    broken = .cutOutside index text ∨ broken = .unencodable text ∨
      broken = .cutInside index text := by
  rcases text.cutAt_outcome index with ⟨-, outside⟩ | ⟨-, -, unencodable⟩ | ⟨-, -, outside⟩ |
    ⟨-, -, -, inside⟩ | ⟨-, before, after, -, -, made⟩
  · exact .inl (Except.error.inj (refused.symm.trans outside))
  · exact .inr (.inl (Except.error.inj (refused.symm.trans unencodable)))
  · exact .inl (Except.error.inj (refused.symm.trans outside))
  · exact .inr (.inr (Except.error.inj (refused.symm.trans inside)))
  · cases refused.symm.trans made

/-- A character can be read exactly at a boundary of an encodable text that is not its end. -/
theorem exists_charAt_eq_ok_iff {text : Text} {offset : Nat} :
    (∃ c, text.charAt offset = .ok c) ↔
      text.Encodable ∧ offset < text.width ∧ text.IsBoundary offset := by
  constructor
  · intro h
    obtain ⟨c, found⟩ := h
    obtain ⟨encodable, before, after, rfl, width_eq⟩ := charAt_eq_ok_iff.mp found
    have := c.width_pos
    refine ⟨encodable, ?_, before, c :: after, rfl, Int.ofNat.inj width_eq⟩
    rw [width_append, width_cons]
    omega
  · intro h
    obtain ⟨encodable, inside, before, after, rfl, rfl⟩ := h
    cases after with
    | nil =>
      rw [width_append, width_nil] at inside
      omega
    | cons c after => exact ⟨c, charAt_append encodable⟩

/-- A cut can be made exactly at a boundary of an encodable text. -/
theorem exists_cutAt_eq_ok_iff {text : Text} {offset : Nat} :
    (∃ parts, text.cutAt offset = .ok parts) ↔ text.Encodable ∧ text.IsBoundary offset := by
  constructor
  · intro h
    obtain ⟨⟨before, after⟩, made⟩ := h
    obtain ⟨encodable, text_eq, width_eq⟩ := cutAt_eq_ok_iff.mp made
    exact ⟨encodable, before, after, text_eq, Int.ofNat.inj width_eq⟩
  · intro h
    obtain ⟨encodable, before, after, rfl, rfl⟩ := h
    exact ⟨(before, after), cutAt_append encodable⟩

theorem cutAt_of_isInside {text : Text} {index : Int} (encodable : text.Encodable)
    (inside : text.IsInside index) : text.cutAt index = .error (.cutInside index text) := by
  obtain ⟨offset, rfl⟩ := Int.eq_ofNat_of_zero_le (Int.le_of_lt inside.pos)
  obtain ⟨before_end, no_boundary⟩ := isInside_iff.mp inside
  have in_range : (offset : Int) ≤ text.width := Int.ofNat_le.mpr (Nat.le_of_lt before_end)
  rcases cutAt_cases encodable (Int.natCast_nonneg offset) in_range with
    ⟨before, after, text_eq, width_eq⟩ | refused
  · exact absurd ⟨before, after, text_eq, Int.ofNat.inj width_eq⟩ no_boundary
  · exact refused

theorem charAt_of_isInside {text : Text} {index : Int} (encodable : text.Encodable)
    (inside : text.IsInside index) : text.charAt index = .error (.characterInside index text) := by
  obtain ⟨offset, rfl⟩ := Int.eq_ofNat_of_zero_le (Int.le_of_lt inside.pos)
  obtain ⟨before_end, no_boundary⟩ := isInside_iff.mp inside
  rcases charAt_cases encodable (Int.natCast_nonneg offset) (Int.ofNat_lt.mpr before_end) with
    ⟨before, c, after, text_eq, width_eq⟩ | refused
  · exact absurd ⟨before, c :: after, text_eq.symm, Int.ofNat.inj width_eq⟩ no_boundary
  · exact refused

/-- Before the end of an encodable text a cut is made wherever the index is not inside a code
point. -/
theorem cutAt_of_not_isInside {text : Text} {index : Int} (encodable : text.Encodable)
    (nonneg : 0 ≤ index) (before_end : index < text.width) (outside : ¬ text.IsInside index) :
    ∃ before after, text = before ++ after ∧ (width before : Int) = index ∧
      text.cutAt index = .ok (before, after) := by
  obtain ⟨offset, rfl⟩ := Int.eq_ofNat_of_zero_le nonneg
  have boundary : text.IsBoundary offset := by
    refine Classical.byContradiction fun no_boundary => outside ?_
    exact isInside_iff.mpr ⟨Int.ofNat_lt.mp before_end, no_boundary⟩
  obtain ⟨before, after, rfl, rfl⟩ := boundary
  exact ⟨before, after, rfl, rfl, cutAt_append encodable⟩

end Text

end ScanFault
