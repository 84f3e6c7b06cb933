import ScanFault.Proofs.Fault.Literal

/-!
# What a message tells

A message is a rule and then some values in parentheses.  The values may be texts that look like
messages, with rules, labels and parentheses of their own.  They are never taken for the message
that they stand in.

No rule has a parenthesis, so the rule is what comes before the first one
(`Violation.parenthesis_not_mem_rule`).  Ten checks have ten rules
(`Violation.check_eq_of_rule_eq`), and the check tells under which labels the values follow
(`Violation.labels_eq_of_check_eq`).
Values under known labels are read one after the other, since each of them says where it ends
(`Datum.listing_append_inj`).  So the message tells the violation (`Violation.message_injective`).
What is said where a message cannot be written is the message of no violation
(`Violation.eq_of_message_refusal_eq`).
-/

namespace ScanFault

/-- What a scanner promises.  Each promise is checked in one place. -/
inductive Check where
  /-- The text has an encoding. -/
  | encoding
  /-- The index of a character lies in the text. -/
  | characterRange
  /-- The index of a character is where it begins. -/
  | characterStart
  /-- The index of a cut lies in the text or at its end. -/
  | cutRange
  /-- The index of a cut lies between two characters. -/
  | cutBoundary
  /-- The index of a fault lies in its line. -/
  | faultRange
  /-- The token of a fault is the character at its index. -/
  | token
  /-- The escape sequence of a fault occurs in its line. -/
  | escape
  /-- The identifier of a fault occurs in its line. -/
  | identifier
  /-- The identifier of a fault is rejected by its predicate. -/
  | rejection
deriving DecidableEq, Repr

namespace Violation

/-- The check that failed. -/
def check : Violation → Check
  | unencodable _ => .encoding
  | characterOutside _ _ => .characterRange
  | characterInside _ _ => .characterStart
  | cutOutside _ _ => .cutRange
  | cutInside _ _ => .cutBoundary
  | faultOutside _ _ => .faultRange
  | otherToken _ _ => .token
  | escapeNotInLine _ _ => .escape
  | identifierNotInLine _ _ => .identifier
  | identifierValid _ => .rejection

/-! ## Rules, labels and values -/

theorem parenthesis_not_mem_rule (violation : Violation) :
    CodePoint.ofChar '(' ∉ Text.ofString violation.rule := by
  cases violation <;> rw [rule] <;> decide

section Pair

variable {first second : Violation}

/-- No two checks have the same rule. -/
theorem check_eq_of_rule_eq (rule_eq : first.rule = second.rule) : first.check = second.check := by
  cases first <;> cases second <;> simp_all [rule, check]

theorem labels_eq_of_check_eq (check_eq : first.check = second.check) :
    first.values.map Prod.fst = second.values.map Prod.fst := by
  cases first <;> cases second <;> simp_all [check, values]

/-- A violation is determined by the check that failed and the values that it looked at. -/
theorem eq_of_check_eq (check_eq : first.check = second.check)
    (data_eq : first.values.map Prod.snd = second.values.map Prod.snd) : first = second := by
  cases first <;> cases second <;> simp_all [check, values]

end Pair

/-! ## Messages -/

theorem message_eq (violation : Violation) :
    violation.message = (Text.ofString violation.rule ++ [.ofChar ' ']) ++
      CodePoint.ofChar '(' :: (Datum.listing violation.values ++ [.ofChar ')']) := by
  rw [message, List.append_assoc, List.append_assoc, List.append_assoc]
  rfl

/-- The message tells which check failed and on which values. -/
theorem message_injective : Function.Injective message := by
  intro first second same
  have outside (violation : Violation) :
      CodePoint.ofChar '(' ∉ Text.ofString violation.rule ++ [.ofChar ' '] := by
    rw [List.mem_append, not_or]
    exact ⟨violation.parenthesis_not_mem_rule, by decide⟩
  rw [message_eq, message_eq] at same
  obtain ⟨rules_eq, listings_eq⟩ := Text.append_cons_inj (outside first) (outside second) same
  have check_eq := check_eq_of_rule_eq (Text.ofString_inj (List.append_cancel_right rules_eq))
  obtain ⟨data_eq, -⟩ := Datum.listing_append_inj (labels_eq_of_check_eq check_eq) listings_eq
  exact eq_of_check_eq check_eq data_eq

theorem head?_message (violation : Violation) :
    violation.message.head? = some (CodePoint.ofChar '`') := by
  have rule_head : (Text.ofString violation.rule).head? = some (.ofChar '`') := by
    cases violation <;> rw [rule] <;> decide
  rw [message, List.append_assoc, List.append_assoc, List.head?_append, rule_head]
  rfl

/-- Where the message is not written, what is said instead is no message of a violation. -/
theorem eq_of_message_refusal_eq {broken other : Violation}
    (same : broken.refusal.message = other.message) : broken = other := by
  rcases broken.refusal_cases with written | unwritten
  · rw [written] at same
    exact message_injective same
  · have heads := other.head?_message
    rw [← same, unwritten] at heads
    exact absurd heads (by decide)

end Violation

end ScanFault
