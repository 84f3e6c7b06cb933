import Mathlib.Algebra.Group.Nat.Defs
import ScanFault.Text.Decimal
import ScanFault.Text.Quoted

/-!
# Numerals can be read back

`Text.valueIn` reads digits in a base.  A decimal numeral has the number that it was made from as
its value (`Text.valueIn_ofNat`), and hexadecimal digits have it up to the digits that were left out
(`Text.valueIn_hexadecimal`).  Hexadecimal digits come in a fixed count.  A decimal numeral does not
say where it ends, so it can be told from what follows only when that begins with something else
(`Text.ofInt_append_inj`).
-/

namespace ScanFault

namespace CodePoint

/-- The value of a digit. -/
def digitValue (c : CodePoint) : Nat :=
  if c.val < 0x3A then c.val - 0x30 else c.val - 0x57

theorem digitValue_digit {d : Nat} (small : d < 16) : (digit d).digitValue = d := by
  simp only [digitValue, digit, Nat.mod_eq_of_lt small]
  split
  next decimal => rw [if_pos (by omega), Nat.add_sub_cancel_left]
  next letter => rw [if_neg (by omega), Nat.add_sub_cancel_left]

/-- A digit of base ten. -/
def IsDecimal (c : CodePoint) : Prop :=
  0x30 ≤ c.val ∧ c.val ≤ 0x39

instance (c : CodePoint) : Decidable c.IsDecimal :=
  inferInstanceAs (Decidable (0x30 ≤ c.val ∧ c.val ≤ 0x39))

theorem isDecimal_digit {d : Nat} (small : d < 10) : (digit d).IsDecimal := by
  have reduced : d % 16 = d := Nat.mod_eq_of_lt (by omega)
  simp only [IsDecimal, digit, reduced, if_pos small]
  omega

end CodePoint

namespace Text

/-! ## Values -/

/-- The number that digits stand for, the most significant digit first. -/
def valueIn (base : Nat) (digits : Text) : Nat :=
  digits.foldl (fun n c => base * n + c.digitValue) 0

theorem valueIn_concat (base : Nat) (digits : Text) (c : CodePoint) :
    valueIn base (digits ++ [c]) = base * valueIn base digits + c.digitValue :=
  List.foldl_append

theorem valueIn_ofNat (n : Nat) : valueIn 10 (ofNat n) = n := by
  fun_induction ofNat n with
  | case1 n small =>
    rw [← List.nil_append [CodePoint.digit n], valueIn_concat,
      CodePoint.digitValue_digit (by omega)]
    exact Nat.zero_add n
  | case2 n large ih =>
    rw [valueIn_concat, ih, CodePoint.digitValue_digit (by omega)]
    omega

theorem length_hexadecimal (count n : Nat) : (hexadecimal count n).length = count := by
  induction count generalizing n with
  | zero => rfl
  | succ count ih => rw [hexadecimal, List.length_append, ih, List.length_singleton]

/-- The value of the last digits of a number is what they leave of it. -/
theorem valueIn_hexadecimal (count n : Nat) :
    valueIn 16 (hexadecimal count n) = n % 16 ^ count := by
  induction count generalizing n with
  | zero =>
    rw [Nat.pow_zero, Nat.mod_one]
    rfl
  | succ count ih =>
    rw [hexadecimal, valueIn_concat, ih, CodePoint.digitValue_digit (Nat.mod_lt n (by omega)),
      Nat.pow_succ', Nat.mod_mul, Nat.add_comm]

/-! ## Where a numeral ends -/

/-- What comes before the first of two equal separators is determined by the whole. -/
theorem append_cons_inj {c : CodePoint} {first second x y : Text} (not_first : c ∉ first)
    (not_second : c ∉ second) (h : first ++ c :: x = second ++ c :: y) :
    first = second ∧ x = y := by
  induction first generalizing second with
  | nil =>
    cases second with
    | nil => exact ⟨rfl, (List.cons.inj h).2⟩
    | cons e second =>
      obtain ⟨rfl, -⟩ := List.cons.inj h
      exact absurd (List.mem_cons_self ..) not_second
  | cons d first ih =>
    cases second with
    | nil =>
      obtain ⟨rfl, -⟩ := List.cons.inj h
      exact absurd (List.mem_cons_self ..) not_first
    | cons e second =>
      obtain ⟨rfl, rest_eq⟩ := List.cons.inj h
      obtain ⟨rfl, rfl⟩ := ih (List.not_mem_of_not_mem_cons not_first)
        (List.not_mem_of_not_mem_cons not_second) rest_eq
      exact ⟨rfl, rfl⟩

theorem isDecimal_of_mem_ofNat {n : Nat} {c : CodePoint} (found : c ∈ ofNat n) : c.IsDecimal := by
  fun_induction ofNat n with
  | case1 n small =>
    rw [List.mem_singleton.mp found]
    exact CodePoint.isDecimal_digit small
  | case2 n large ih =>
    rcases List.mem_append.mp found with higher | last
    · exact ih higher
    · rw [List.mem_singleton.mp last]
      exact CodePoint.isDecimal_digit (Nat.mod_lt n (by omega))

theorem eq_minus_or_isDecimal_of_mem_ofInt {i : Int} {c : CodePoint} (found : c ∈ ofInt i) :
    c = CodePoint.ofChar '-' ∨ c.IsDecimal := by
  cases i with
  | ofNat n => exact .inr (isDecimal_of_mem_ofNat found)
  | negSucc n =>
    rcases List.mem_cons.mp found with sign | rest
    · exact .inl sign
    · exact .inr (isDecimal_of_mem_ofNat rest)

theorem ofNat_ne_nil (n : Nat) : ofNat n ≠ [] := by
  rw [ofNat]
  split
  next => exact List.cons_ne_nil _ _
  next => exact List.append_ne_nil_of_right_ne_nil _ (List.cons_ne_nil _ _)

theorem ofInt_ne_nil (i : Int) : ofInt i ≠ [] := by
  cases i with
  | ofNat n => exact ofNat_ne_nil n
  | negSucc n => exact List.cons_ne_nil _ _

theorem ofNat_injective : Function.Injective ofNat :=
  Function.LeftInverse.injective valueIn_ofNat

/-- A minus sign is no digit, so the numeral of a natural number does not begin with one. -/
theorem ofNat_ne_minus (n : Nat) (rest : Text) : ofNat n ≠ CodePoint.ofChar '-' :: rest := by
  intro same
  have sign : CodePoint.ofChar '-' ∈ ofNat n := same ▸ List.mem_cons_self ..
  exact absurd (isDecimal_of_mem_ofNat sign) (by decide)

theorem ofInt_injective : Function.Injective ofInt := by
  intro i j same
  cases i with
  | ofNat m =>
    cases j with
    | ofNat n => rw [ofNat_injective same]
    | negSucc n => exact absurd same (ofNat_ne_minus m (ofNat (n + 1)))
  | negSucc m =>
    cases j with
    | ofNat n => exact absurd same.symm (ofNat_ne_minus n (ofNat (m + 1)))
    | negSucc n => rw [Nat.succ.inj (ofNat_injective (List.cons.inj same).2)]

/-- Two numerals with the same separator behind them are told from what follows, when the separator
cannot stand in a numeral. -/
theorem ofInt_append_inj {i j : Int} {c : CodePoint} {x y : Text}
    (no_sign : c ≠ CodePoint.ofChar '-') (no_digit : ¬ c.IsDecimal)
    (h : ofInt i ++ c :: x = ofInt j ++ c :: y) : i = j ∧ x = y := by
  have outside (k : Int) : c ∉ ofInt k := fun found =>
    (eq_minus_or_isDecimal_of_mem_ofInt found).elim no_sign no_digit
  obtain ⟨same, rest_eq⟩ := append_cons_inj (outside i) (outside j) h
  exact ⟨ofInt_injective same, rest_eq⟩

end Text

end ScanFault
