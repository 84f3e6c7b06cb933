import ScanFault.Datum

/-!
# Violations

A violation is a broken precondition: the scanner asked for something that makes no sense for its
line.  There is one constructor for each check, and it carries the values that the check looked at.
`Violation.message` states the rule that was broken and lists those values.
-/

namespace ScanFault

/-- A precondition that does not hold, with the values that it was checked on. -/
inductive Violation where
  /-- The text has a surrogate, so it has no size in bytes. -/
  | unencodable (text : Text)
  /-- A character was asked for at an offset outside the text. -/
  | characterOutside (index : Int) (text : Text)
  /-- A character was asked for at an offset inside another. -/
  | characterInside (index : Int) (text : Text)
  /-- A cut was asked for at an offset outside the text. -/
  | cutOutside (index : Int) (text : Text)
  /-- A cut was asked for at an offset inside a character. -/
  | cutInside (index : Int) (text : Text)
  /-- A fault was placed at an offset outside its line. -/
  | faultOutside (index : Int) (line : Text)
  /-- The token of a fault is not the character at its offset. -/
  | otherToken (token : Text) (index : Int)
  /-- The escape sequence does not occur in the line. -/
  | escapeNotInLine (escape line : Text)
  /-- The identifier does not occur in the line. -/
  | identifierNotInLine (identifier line : Text)
  /-- The identifier is valid after all. -/
  | identifierValid (identifier : Text)
deriving DecidableEq, Repr

namespace Violation

/-- The rule that was broken. -/
def rule : Violation → String
  | .unencodable _ => "`string` must be encodable as UTF-8"
  | .characterOutside _ _ => "`index` must be a valid index in `string`"
  | .characterInside _ _ => "`index` is not a valid index in `string`"
  | .cutOutside _ _ => "`index` is out of range"
  | .cutInside _ _ => "`index` is not on a character boundary"
  | .faultOutside _ _ => "`index` must be a valid index in `line`"
  | .otherToken _ _ => "`token` must be the character at `index`"
  | .escapeNotInLine _ _ => "`line` must contain `escape`"
  | .identifierNotInLine _ _ => "`line` must contain `identifier`"
  | .identifierValid _ => "`identifier` must be an invalid identifier"

/-- The values that the check looked at, under the names that the message gives them. -/
def values : Violation → List (String × Datum)
  | .unencodable text => [("string", .text text)]
  | .characterOutside index text
  | .characterInside index text
  | .cutOutside index text
  | .cutInside index text => [("index", .number index), ("string", .text text)]
  | .faultOutside index line => [("index", .number index), ("line", .text line)]
  | .otherToken token index => [("token", .text token), ("index", .number index)]
  | .escapeNotInLine escape line => [("self.escape", .text escape), ("self.line", .text line)]
  | .identifierNotInLine identifier line =>
      [("self.ident", .text identifier), ("self.line", .text line)]
  | .identifierValid identifier => [("self.ident", .text identifier)]

/-- The message: the rule, then the values in parentheses. -/
def message (violation : Violation) : Text :=
  Text.ofString violation.rule ++ " (" ++ Datum.listing violation.values ++ ")"

theorem message_unencodable (text : Text) :
    (unencodable text).message =
      "`string` must be encodable as UTF-8 (string=" ++ text.quoted ++ ")" := by
  simp only [message, rule, values, Datum.listing, Datum.labelled_eq, Datum.literal,
    List.append_assoc, Text.ofString_append_append, String.reduceAppend]

theorem message_characterOutside (index : Int) (text : Text) :
    (characterOutside index text).message =
      "`index` must be a valid index in `string` (index=" ++ Text.ofInt index ++ ", string="
        ++ text.quoted ++ ")" := by
  simp only [message, rule, values, Datum.listing, Datum.labelled_eq, Datum.literal,
    List.append_assoc, Text.ofString_append_append, String.reduceAppend]

theorem message_characterInside (index : Int) (text : Text) :
    (characterInside index text).message =
      "`index` is not a valid index in `string` (index=" ++ Text.ofInt index ++ ", string="
        ++ text.quoted ++ ")" := by
  simp only [message, rule, values, Datum.listing, Datum.labelled_eq, Datum.literal,
    List.append_assoc, Text.ofString_append_append, String.reduceAppend]

theorem message_cutOutside (index : Int) (text : Text) :
    (cutOutside index text).message =
      "`index` is out of range (index=" ++ Text.ofInt index ++ ", string=" ++ text.quoted
        ++ ")" := by
  simp only [message, rule, values, Datum.listing, Datum.labelled_eq, Datum.literal,
    List.append_assoc, Text.ofString_append_append, String.reduceAppend]

theorem message_cutInside (index : Int) (text : Text) :
    (cutInside index text).message =
      "`index` is not on a character boundary (index=" ++ Text.ofInt index ++ ", string="
        ++ text.quoted ++ ")" := by
  simp only [message, rule, values, Datum.listing, Datum.labelled_eq, Datum.literal,
    List.append_assoc, Text.ofString_append_append, String.reduceAppend]

theorem message_faultOutside (index : Int) (line : Text) :
    (faultOutside index line).message =
      "`index` must be a valid index in `line` (index=" ++ Text.ofInt index ++ ", line="
        ++ line.quoted ++ ")" := by
  simp only [message, rule, values, Datum.listing, Datum.labelled_eq, Datum.literal,
    List.append_assoc, Text.ofString_append_append, String.reduceAppend]

theorem message_otherToken (token : Text) (index : Int) :
    (otherToken token index).message =
      "`token` must be the character at `index` (token=" ++ token.quoted ++ ", index="
        ++ Text.ofInt index ++ ")" := by
  simp only [message, rule, values, Datum.listing, Datum.labelled_eq, Datum.literal,
    List.append_assoc, Text.ofString_append_append, String.reduceAppend]

theorem message_escapeNotInLine (escape line : Text) :
    (escapeNotInLine escape line).message =
      "`line` must contain `escape` (self.escape=" ++ escape.quoted ++ ", self.line="
        ++ line.quoted ++ ")" := by
  simp only [message, rule, values, Datum.listing, Datum.labelled_eq, Datum.literal,
    List.append_assoc, Text.ofString_append_append, String.reduceAppend]

theorem message_identifierNotInLine (identifier line : Text) :
    (identifierNotInLine identifier line).message =
      "`line` must contain `identifier` (self.ident=" ++ identifier.quoted ++ ", self.line="
        ++ line.quoted ++ ")" := by
  simp only [message, rule, values, Datum.listing, Datum.labelled_eq, Datum.literal,
    List.append_assoc, Text.ofString_append_append, String.reduceAppend]

theorem message_identifierValid (identifier : Text) :
    (identifierValid identifier).message =
      "`identifier` must be an invalid identifier (self.ident=" ++ identifier.quoted ++ ")" := by
  simp only [message, rule, values, Datum.listing, Datum.labelled_eq, Datum.literal,
    List.append_assoc, Text.ofString_append_append, String.reduceAppend]

end Violation

end ScanFault
