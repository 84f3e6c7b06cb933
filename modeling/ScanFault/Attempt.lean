import ScanFault.Refusal

/-!
# Attempts

To make a fault is an attempt.  It ends with a value or a refusal, and on the way it may call
predicates.  An attempt keeps the calls in order, also when it is refused.
-/

namespace ScanFault

/-- The end of an attempt, with the predicate calls that were made. -/
structure Attempt (α : Type) where
  /-- The value, or why there is none. -/
  result : Except Refusal α
  /-- The calls, oldest first. -/
  calls : List Call := []

namespace Attempt

/-- The attempt that ends at once. -/
def done {α : Type} (a : α) : Attempt α := ⟨.ok a, []⟩

/-- The attempt that is refused at once. -/
def refuse {α : Type} (refusal : Refusal) : Attempt α := ⟨.error refusal, []⟩

/-- Goes on with the value of an attempt, and keeps the calls of both. -/
def andThen {α β : Type} (first : Attempt α) (next : α → Attempt β) : Attempt β :=
  match first.result with
  | .ok a =>
      let second := next a
      ⟨second.result, first.calls ++ second.calls⟩
  | .error refusal => ⟨.error refusal, first.calls⟩

instance : Monad Attempt where
  pure := done
  bind := andThen

/-- An attempt without calls. -/
def ofExcept {α : Type} (result : Except Refusal α) : Attempt α := ⟨result, []⟩

/-- A check of preconditions as an attempt. -/
def checked {α : Type} (result : Except Violation α) : Attempt α :=
  ofExcept (result.mapError Violation.refusal)

/-! ## Composition -/

@[simp] theorem result_pure {α : Type} (a : α) : (pure a : Attempt α).result = .ok a := rfl

/-- A check that holds is an attempt that ends with its value, and no other check is. -/
theorem result_checked_eq_ok_iff {α : Type} {result : Except Violation α} {a : α} :
    (checked result).result = .ok a ↔ result = .ok a :=
  Violation.mapError_refusal_eq_ok_iff

/-- An attempt that is refused goes no further. -/
theorem bind_of_error {α β : Type} {first : Attempt α} {refusal : Refusal}
    (refused : first.result = .error refusal) (next : α → Attempt β) :
    first >>= next = ⟨.error refusal, first.calls⟩ := by
  show andThen first next = _
  simp only [andThen, refused]

/-- An attempt that ends with a value goes on with it. -/
theorem bind_of_ok {α β : Type} {first : Attempt α} {a : α} (made : first.result = .ok a)
    (next : α → Attempt β) :
    first >>= next = ⟨(next a).result, first.calls ++ (next a).calls⟩ := by
  show andThen first next = _
  simp only [andThen, made]

/-- An attempt in two steps ends with a value exactly when both do. -/
theorem result_bind_eq_ok_iff {α β : Type} {first : Attempt α} {next : α → Attempt β} {b : β} :
    (first >>= next).result = .ok b ↔ ∃ a, first.result = .ok a ∧ (next a).result = .ok b := by
  cases made : first.result with
  | error refusal =>
    rw [bind_of_error made]
    exact iff_of_false (fun h => nomatch h) fun ⟨_, h, _⟩ => nomatch h
  | ok a =>
    rw [bind_of_ok made]
    constructor
    · intro h
      exact ⟨a, rfl, h⟩
    · rintro ⟨_, h, ended⟩
      cases h
      exact ended

/-- An attempt in two steps is refused for what refuses the first, or the second after it. -/
theorem result_bind_eq_error_iff {α β : Type} {first : Attempt α} {next : α → Attempt β}
    {refusal : Refusal} :
    (first >>= next).result = .error refusal ↔
      first.result = .error refusal ∨
        ∃ a, first.result = .ok a ∧ (next a).result = .error refusal := by
  cases made : first.result with
  | error other =>
    rw [bind_of_error made, Except.error.injEq, Except.error.injEq]
    exact (or_iff_left fun ⟨_, h, _⟩ => nomatch h).symm
  | ok a =>
    rw [bind_of_ok made]
    constructor
    · intro refused
      exact .inr ⟨a, rfl, refused⟩
    · rintro (h | ⟨_, h, refused⟩)
      · cases h
      · cases h
        exact refused

/-- Steps may be grouped in either way, and to end with a value at once adds nothing. -/
instance : LawfulMonad Attempt := .mk' Attempt
  (by
    intro α first
    obtain ⟨result, calls⟩ := first
    cases result with
    | error refusal => rfl
    | ok a => exact congrArg (Attempt.mk (.ok a)) (List.append_nil calls))
  (by
    intro α β a next
    rfl)
  (by
    intro α β γ first second third
    cases made : first.result with
    | error refusal =>
      rw [bind_of_error made, bind_of_error rfl, bind_of_error made]
    | ok a =>
      rw [bind_of_ok made, bind_of_ok made]
      cases ended : (second a).result with
      | error refusal =>
        rw [bind_of_error ended]
        rfl
      | ok b =>
        rw [bind_of_ok ended]
        exact congrArg (Attempt.mk (third b).result) (List.append_assoc ..))

/-! ## Calls -/

/-- No predicate is called. -/
def Silent {α : Type} (attempt : Attempt α) : Prop :=
  attempt.calls = []

theorem silent_pure {α : Type} (a : α) : (pure a : Attempt α).Silent := rfl

theorem silent_refuse {α : Type} (refusal : Refusal) : (refuse refusal : Attempt α).Silent := rfl

theorem silent_ofExcept {α : Type} (result : Except Refusal α) : (ofExcept result).Silent := rfl

theorem silent_checked {α : Type} (result : Except Violation α) : (checked result).Silent := rfl

/-- What goes on without calls adds none. -/
theorem calls_bind_of_silent {α β : Type} (first : Attempt α) {next : α → Attempt β}
    (silent : ∀ a, (next a).Silent) : (first >>= next).calls = first.calls := by
  cases made : first.result with
  | error refusal => rw [bind_of_error made]
  | ok a =>
    rw [bind_of_ok made, silent a]
    exact List.append_nil first.calls

theorem Silent.bind {α β : Type} {first : Attempt α} {next : α → Attempt β} (silent : first.Silent)
    (next_silent : ∀ a, (next a).Silent) : (first >>= next).Silent :=
  (calls_bind_of_silent first next_silent).trans silent

/-- The texts of the calls, without those of the standard rule. -/
def shownCalls {α : Type} (attempt : Attempt α) : List Text :=
  (attempt.calls.filter fun call => call.predicate.name != Predicate.standard.name).map Call.text

end Attempt

/-- Asks a predicate for the truth of what it says of a text. -/
def Predicate.ask (predicate : Predicate) (text : Text) : Attempt Bool where
  result := (predicate.judge text).truth.mapError .predicateFailed
  calls := [⟨predicate, text⟩]

end ScanFault
