import ScanFault.Text.Basic

/-!
# Identifiers

The rule for identifiers that holds when a scanner brings none of its own: a letter or an
underscore, then letters, digits and underscores, all of them ASCII.

The two tests below it are meant for a text of one character, and they compare whole texts in the
order of texts.  So a longer text passes when it lies between the bounds: `"ab"` does and `"za"`
does not.
-/

namespace ScanFault

namespace Text

/-- Decides whether a text lies between two others, both included. -/
def between (first last text : Text) : Bool :=
  decide (first ≤ text) && decide (text ≤ last)

/-- Decides whether a character may begin an identifier. -/
def isIdentifierHead (text : Text) : Bool :=
  between "a" "z" text || between "A" "Z" text || text == "_"

/-- Decides whether a character may stand in an identifier after the first. -/
def isIdentifierPart (text : Text) : Bool :=
  text.isIdentifierHead || between "0" "9" text

/-- Decides whether a text is an identifier as a whole. -/
def isIdentifier : Text → Bool
  | [] => false
  | c :: rest => isIdentifierHead [c] && rest.all fun d => isIdentifierPart [d]

end Text

end ScanFault
