import LinePipe.Text.Basic
import LinePipe.Text.CharClass

/-!
# Whitespace

Which characters count as whitespace, and what follows from that: the words of a text and the text
without whitespace at its ends.

## Main definitions

- `Text.isBlank`: the whitespace characters
- `Text.words`: the maximal runs of other characters
- `Text.strip`: the text without whitespace at either end
-/

namespace LinePipe.Text

/-- Whitespace: the characters of bidirectional class WS, B or S and those of category Zs. -/
def blanks : CharClass :=
  [(0x9, 0xD), (0x1C, 0x20), (0x85, 0x85), (0xA0, 0xA0), (0x1680, 0x1680), (0x2000, 0x200A),
   (0x2028, 0x2029), (0x202F, 0x202F), (0x205F, 0x205F), (0x3000, 0x3000)]

def isBlank (c : Char) : Bool :=
  blanks.holds c

/-- Whether a text holds nothing but whitespace; the empty text does. -/
def isAllBlank (t : Text) : Bool :=
  t.all isBlank

/-- The maximal runs of characters that are not whitespace, in order. -/
def words (t : Text) : List Text :=
  (splitWhere isBlank t).filter fun w => !w.isEmpty

def stripLeft (t : Text) : Text :=
  t.dropWhile isBlank

/-- The text without its trailing characters that satisfy `p`. -/
def dropRightWhile (p : Char → Bool) (t : Text) : Text :=
  (t.reverse.dropWhile p).reverse

def stripRight (t : Text) : Text :=
  dropRightWhile isBlank t

def strip (t : Text) : Text :=
  stripRight (stripLeft t)

end LinePipe.Text
