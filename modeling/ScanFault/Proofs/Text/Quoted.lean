import ScanFault.Proofs.Text.Numerals

/-!
# Quoted texts can be read back

The quote that a literal begins with is the one that ends it, and it tells which quote is escaped
in between.  `Text.readEscaped` reads one code point of what stands between quotes.  Behind a
backslash there is a letter that tells the form of the escape, and no letter is a quote or a
backslash.  Everything else stands for itself.

So the code points of a literal are read one after the other, up to the first quote without a
backslash, whatever comes behind the literal (`Text.quoted_append_inj`).  In particular no text has
the literal of another.
-/

namespace ScanFault

namespace CodePoint

theorem ofNat?_val (c : CodePoint) : ofNat? c.val = some c :=
  dif_pos c.isLt

/-- One of the two quotes that a text may be put between. -/
def IsQuote (c : CodePoint) : Prop :=
  c = ofChar '\'' ∨ c = ofChar '"'

instance (c : CodePoint) : Decidable c.IsQuote :=
  inferInstanceAs (Decidable (c = ofChar '\'' ∨ c = ofChar '"'))

end CodePoint

namespace Text

theorem isQuote_quote (text : Text) : text.quote.IsQuote := by
  rw [quote]
  split
  next => exact .inr rfl
  next => exact .inl rfl

/-! ## What is written for a code point -/

theorem numericEscape_cases (c : CodePoint) :
    ∃ letter count, (letter = CodePoint.ofChar 'x' ∧ count = 2 ∨
        letter = CodePoint.ofChar 'u' ∧ count = 4 ∨ letter = CodePoint.ofChar 'U' ∧ count = 8) ∧
      c.val < 16 ^ count ∧ numericEscape c = .ofChar '\\' :: letter :: hexadecimal count c.val := by
  rw [numericEscape]
  split
  next two => exact ⟨_, 2, .inl ⟨rfl, rfl⟩, two, rfl⟩
  next =>
    split
    next four => exact ⟨_, 4, .inr (.inl ⟨rfl, rfl⟩), four, rfl⟩
    next => exact ⟨_, 8, .inr (.inr ⟨rfl, rfl⟩), Nat.lt_trans c.isLt (by decide), rfl⟩

/-- A code point is written in one of six ways. -/
theorem escaped_cases (quote c : CodePoint) :
    ((c = quote ∨ c = .ofChar '\\') ∧ escaped quote c = [.ofChar '\\', c]) ∨
    (c = .ofChar '\n' ∧ escaped quote c = [.ofChar '\\', .ofChar 'n']) ∨
    (c = .ofChar '\r' ∧ escaped quote c = [.ofChar '\\', .ofChar 'r']) ∨
    (c = .ofChar '\t' ∧ escaped quote c = [.ofChar '\\', .ofChar 't']) ∨
    escaped quote c = numericEscape c ∨
    (c ≠ quote ∧ c ≠ .ofChar '\\' ∧ c.isUnprintable = false ∧ escaped quote c = [c]) := by
  by_cases special : c = quote ∨ c = .ofChar '\\'
  · exact .inl ⟨special, if_pos special⟩
  by_cases feed : c = .ofChar '\n'
  · exact .inr (.inl ⟨feed, by rw [escaped, if_neg special, if_pos feed]⟩)
  by_cases carriage : c = .ofChar '\r'
  · exact .inr (.inr (.inl ⟨carriage, by
      rw [escaped, if_neg special, if_neg feed, if_pos carriage]⟩))
  by_cases tab : c = .ofChar '\t'
  · exact .inr (.inr (.inr (.inl ⟨tab, by
      rw [escaped, if_neg special, if_neg feed, if_neg carriage, if_pos tab]⟩)))
  rw [escaped, if_neg special, if_neg feed, if_neg carriage, if_neg tab]
  obtain ⟨not_quote, not_backslash⟩ := not_or.mp special
  cases unprintable : c.isUnprintable with
  | true => exact .inr (.inr (.inr (.inr (.inl rfl))))
  | false => exact .inr (.inr (.inr (.inr (.inr ⟨not_quote, not_backslash, rfl, rfl⟩))))

/-- What is written for a code point begins with something else than the quote in use. -/
theorem escaped_eq_cons {quote : CodePoint} (isQuote : quote.IsQuote) (c : CodePoint) :
    ∃ head tail, escaped quote c = head :: tail ∧ head ≠ quote := by
  have backslash : CodePoint.ofChar '\\' ≠ quote := by
    rcases isQuote with rfl | rfl
    · decide
    · decide
  rcases escaped_cases quote c with ⟨-, written⟩ | ⟨-, written⟩ | ⟨-, written⟩ | ⟨-, written⟩ |
    written | ⟨not_quote, -, -, written⟩
  · exact ⟨_, _, written, backslash⟩
  · exact ⟨_, _, written, backslash⟩
  · exact ⟨_, _, written, backslash⟩
  · exact ⟨_, _, written, backslash⟩
  · obtain ⟨letter, count, -, -, numeric⟩ := numericEscape_cases c
    exact ⟨_, _, written.trans numeric, backslash⟩
  · exact ⟨_, _, written, not_quote⟩

/-! ## Reading one code point -/

/-- Reads a code point from its number in `count` hexadecimal digits. -/
def readNumeric (count : Nat) (text : Text) : Option (CodePoint × Text) :=
  (CodePoint.ofNat? (valueIn 16 (text.take count))).map fun c => (c, text.drop count)

/-- Reads a code point as it is written between quotes, and returns what follows it. -/
def readEscaped : Text → Option (CodePoint × Text)
  | [] => none
  | c :: rest =>
      if c = .ofChar '\\' then
        match rest with
        | [] => none
        | form :: rest =>
            if form = .ofChar 'n' then some (.ofChar '\n', rest)
            else if form = .ofChar 'r' then some (.ofChar '\r', rest)
            else if form = .ofChar 't' then some (.ofChar '\t', rest)
            else if form = .ofChar 'x' then readNumeric 2 rest
            else if form = .ofChar 'u' then readNumeric 4 rest
            else if form = .ofChar 'U' then readNumeric 8 rest
            else some (form, rest)
      else some (c, rest)

theorem readNumeric_hexadecimal {count : Nat} {c : CodePoint} (fits : c.val < 16 ^ count)
    (rest : Text) : readNumeric count (hexadecimal count c.val ++ rest) = some (c, rest) := by
  have length_eq := length_hexadecimal count c.val
  rw [readNumeric, List.take_left' length_eq, List.drop_left' length_eq, valueIn_hexadecimal,
    Nat.mod_eq_of_lt fits, CodePoint.ofNat?_val]
  rfl

theorem readEscaped_numericEscape (c : CodePoint) (rest : Text) :
    readEscaped (numericEscape c ++ rest) = some (c, rest) := by
  obtain ⟨letter, count, form, fits, numeric⟩ := numericEscape_cases c
  rw [numeric]
  rcases form with ⟨rfl, rfl⟩ | ⟨rfl, rfl⟩ | ⟨rfl, rfl⟩
  · exact readNumeric_hexadecimal fits rest
  · exact readNumeric_hexadecimal fits rest
  · exact readNumeric_hexadecimal fits rest

/-- A code point is read back from the way it is written between quotes of either sort. -/
theorem readEscaped_escaped {quote : CodePoint} (isQuote : quote.IsQuote) (c : CodePoint)
    (rest : Text) : readEscaped (escaped quote c ++ rest) = some (c, rest) := by
  rcases escaped_cases quote c with ⟨special, written⟩ | ⟨rfl, written⟩ | ⟨rfl, written⟩ |
    ⟨rfl, written⟩ | written | ⟨-, not_backslash, -, written⟩
  · rw [written]
    rcases special with rfl | rfl
    · rcases isQuote with rfl | rfl
      · rfl
      · rfl
    · rfl
  · rw [written]
    rfl
  · rw [written]
    rfl
  · rw [written]
    rfl
  · rw [written]
    exact readEscaped_numericEscape c rest
  · rw [written]
    exact if_neg not_backslash

theorem escaped_append_inj {quote c d : CodePoint} {x y : Text} (isQuote : quote.IsQuote)
    (h : escaped quote c ++ x = escaped quote d ++ y) : c = d ∧ x = y := by
  have read := readEscaped_escaped isQuote c x
  rw [h, readEscaped_escaped isQuote d y, Option.some.injEq, Prod.mk.injEq] at read
  exact ⟨read.1.symm, read.2.symm⟩

/-! ## Reading a literal -/

/-- Between quotes of one sort, the first quote without an escape ends the text. -/
theorem flatMap_escaped_append_inj {quote : CodePoint} (isQuote : quote.IsQuote)
    {first second x y : Text}
    (h : first.flatMap (escaped quote) ++ quote :: x =
      second.flatMap (escaped quote) ++ quote :: y) :
    first = second ∧ x = y := by
  induction first generalizing second with
  | nil =>
    cases second with
    | nil => exact ⟨rfl, (List.cons.inj h).2⟩
    | cons d second =>
      obtain ⟨head, tail, escaped_eq, head_ne⟩ := escaped_eq_cons isQuote d
      rw [List.flatMap_cons, escaped_eq] at h
      exact absurd (List.cons.inj h).1.symm head_ne
  | cons c first ih =>
    cases second with
    | nil =>
      obtain ⟨head, tail, escaped_eq, head_ne⟩ := escaped_eq_cons isQuote c
      rw [List.flatMap_cons, escaped_eq] at h
      exact absurd (List.cons.inj h).1 head_ne
    | cons d second =>
      rw [List.flatMap_cons, List.flatMap_cons, List.append_assoc, List.append_assoc] at h
      obtain ⟨rfl, rest_eq⟩ := escaped_append_inj isQuote h
      obtain ⟨rfl, rfl⟩ := ih rest_eq
      exact ⟨rfl, rfl⟩

/-- Two literals with anything behind them are the same only for the same text. -/
theorem quoted_append_inj {first second x y : Text} (h : quoted first ++ x = quoted second ++ y) :
    first = second ∧ x = y := by
  rw [quoted, quoted, List.cons_append, List.cons_append, List.cons_append, List.cons_append,
    List.append_assoc, List.append_assoc, List.singleton_append, List.singleton_append] at h
  -- The first quote is in view, so both texts are read with the same one.
  obtain ⟨quote_eq, rest_eq⟩ := List.cons.inj h
  rw [← quote_eq] at rest_eq
  exact flatMap_escaped_append_inj first.isQuote_quote rest_eq

end Text

end ScanFault
