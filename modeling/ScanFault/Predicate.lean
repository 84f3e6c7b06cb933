import ScanFault.Identifier
import ScanFault.Text.Decimal

/-!
# Predicates

A scanner may bring its own rule for identifiers.  A predicate is such a rule: a function of the
text under a name.  Its verdict need not be a truth value.  Any text serves, and counts as true when
it is not empty.  A predicate may also fail, and then its failure is passed on as it is.

Besides the standard rule there is a small stock of others.
-/

namespace ScanFault

/-- Why foreign code gave no value. -/
structure Failure where
  /-- The name of the type of what was raised. -/
  typeName : String
  /-- Its message. -/
  message : Text
deriving DecidableEq, Repr

/-- What a predicate says of a text. -/
inductive Verdict where
  /-- A truth value. -/
  | bool (b : Bool)
  /-- A text, of which only the truth counts. -/
  | text (content : Text)
  /-- No value: the predicate failed. -/
  | failure (failed : Failure)
deriving DecidableEq, Repr

/-- The truth of a verdict, or the failure of the predicate. -/
def Verdict.truth : Verdict → Except Failure Bool
  | .bool b => .ok b
  | .text content => .ok !content.isEmpty
  | .failure failed => .error failed

/-- A rule for identifiers. -/
structure Predicate where
  /-- The name by which the rule is shown. -/
  name : String
  /-- The verdict on a text. -/
  judge : Text → Verdict
  /-- Why the rule cannot be pickled, if it cannot.  A rule is pickled by its name, and one that is
  not found again under this name is refused. -/
  unpicklable? : Option Failure := none

namespace Predicate

/-- The rule of `Text.isIdentifier`. -/
def standard : Predicate where
  name := "default"
  judge text := .bool text.isIdentifier

/-- The rule that no text meets. -/
def never : Predicate where
  name := "never"
  judge _ := .bool false

/-- The rule that every text meets. -/
def always : Predicate where
  name := "always"
  judge _ := .bool true

/-- The rule that texts of at most three code points meet. -/
def short : Predicate where
  name := "short"
  judge text := .bool (text.length ≤ 3)

/-- The rule that answers with the text that it is asked about. -/
def itself : Predicate where
  name := "itself"
  judge text := .text text

/-- Decides whether a text goes on and ends as words of lower-case letters with a hyphen between
neighbours.  The flag says that a word has begun. -/
def kebabFrom : Bool → Text → Bool
  | inWord, [] => inWord
  | inWord, c :: rest =>
      if Text.between "a" "z" [c] then kebabFrom true rest
      else inWord && c == CodePoint.ofChar '-' && kebabFrom false rest

/-- The rule for words of lower-case ASCII letters with single hyphens between them. -/
def kebab : Predicate where
  name := "kebab"
  judge text := .bool (kebabFrom false text)

/-- The rule that fails on every text. -/
def failing : Predicate where
  name := "raises"
  judge text := .failure
    ⟨"ValueError", "predicate failed on " ++ Text.ofNat text.length ++ " characters"⟩

/-- The predicates that can be asked for by name. -/
def stock : List Predicate :=
  [standard, never, always, short, itself, kebab, failing]

/-- The predicate of the stock with a given name. -/
def ofName? (name : String) : Option Predicate :=
  stock.find? fun predicate => predicate.name == name

end Predicate

/-- A predicate that was asked, and the text that it was asked about. -/
structure Call where
  predicate : Predicate
  text : Text

end ScanFault
