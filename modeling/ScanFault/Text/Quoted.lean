import ScanFault.Text.Basic
import ScanFault.Text.Unprintable

/-!
# Quoted texts

A quoted text is a literal that can be shown on one line, whatever the text holds.  It stands
between two single quotes, or between two double quotes when the text has a single quote and no
double one, so that a text with quotes of one sort needs no escape for them.

Inside, the quote in use and the backslash stand behind a backslash.  Line feed, carriage return and
tab have a letter each.  Any other unprintable code point is written by its number in lower-case
hexadecimal, with two digits after `\\x`, four after `\\u` or eight after `\\U`, the shortest form
that holds it.  Everything else stands for itself.
-/

namespace ScanFault

namespace Text

/-- The quote that a text is put between. -/
def quote (text : Text) : CodePoint :=
  if CodePoint.ofChar '\'' ∈ text ∧ CodePoint.ofChar '"' ∉ text then .ofChar '"' else .ofChar '\''

/-- The last `count` hexadecimal digits of a number. -/
def hexadecimal : (count n : Nat) → Text
  | 0, _ => []
  | count + 1, n => hexadecimal count (n / 16) ++ [CodePoint.digit (n % 16)]

/-- The escape of a code point by its number. -/
def numericEscape (c : CodePoint) : Text :=
  if c.val < 0x100 then CodePoint.ofChar '\\' :: .ofChar 'x' :: hexadecimal 2 c.val
  else if c.val < 0x10000 then CodePoint.ofChar '\\' :: .ofChar 'u' :: hexadecimal 4 c.val
  else CodePoint.ofChar '\\' :: .ofChar 'U' :: hexadecimal 8 c.val

/-- How a code point is written between quotes of the given sort. -/
def escaped (quote c : CodePoint) : Text :=
  if c = quote ∨ c = CodePoint.ofChar '\\' then [.ofChar '\\', c]
  else if c = .ofChar '\n' then [.ofChar '\\', .ofChar 'n']
  else if c = .ofChar '\r' then [.ofChar '\\', .ofChar 'r']
  else if c = .ofChar '\t' then [.ofChar '\\', .ofChar 't']
  else if c.isUnprintable then numericEscape c
  else [c]

/-- The literal of a text. -/
def quoted (text : Text) : Text :=
  text.quote :: text.flatMap (escaped text.quote) ++ [text.quote]

end Text

end ScanFault
