import LinePipe.Text.Basic
import LinePipe.Text.Printable

/-!
# Quoted texts

How a text is shown inside a message: between quotes, with the characters that would be invisible or
ambiguous written as escapes.

## Main definitions

- `Text.quoted`: the quoted form of a text
- `Text.quotedList`: the quoted forms of several texts, between parentheses
-/

namespace LinePipe.Text

def hexDigit (n : Nat) : Char :=
  Nat.digitChar n

/-- The last `width` hexadecimal digits of a number. -/
def hexDigits : Nat → Nat → Text
  | 0, _ => []
  | width + 1, n => hexDigits width (n / 16) ++ [hexDigit (n % 16)]

/-- The quotation mark for a text: the apostrophe, unless the text has one and no double quote. -/
def quoteMark (t : Text) : Char :=
  if t.contains '\'' && !t.contains '"' then '"' else '\''

/-- The numeric escape of a character, as short as its code point allows. -/
def escapeCode (c : Char) : Text :=
  let n := c.toNat
  if n ≤ 0xFF then ['\\', 'x'] ++ hexDigits 2 n
  else if n ≤ 0xFFFF then ['\\', 'u'] ++ hexDigits 4 n
  else ['\\', 'U'] ++ hexDigits 8 n

/-- A character as it stands between quotation marks `mark`. -/
def quotedChar (mark c : Char) : Text :=
  if c == mark || c == '\\' then ['\\', c]
  else if c == '\n' then ['\\', 'n']
  else if c == '\r' then ['\\', 'r']
  else if c == '\t' then ['\\', 't']
  else if isPrintable c then [c]
  else escapeCode c

/-- The text between quotation marks, with escapes for what cannot be shown. -/
def quoted (t : Text) : Text :=
  let mark := quoteMark t
  mark :: t.flatMap (quotedChar mark) ++ [mark]

/-- Quoted texts between parentheses; a comma follows the only text of a list of one. -/
def quotedList : List Text → Text
  | [t] => ['('] ++ quoted t ++ [',', ')']
  | ts => ['('] ++ joinWith [',', ' '] (ts.map quoted) ++ [')']

end LinePipe.Text
