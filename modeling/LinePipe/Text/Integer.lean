import LinePipe.Text.Blank
import LinePipe.Text.Digit
import LinePipe.Text.Quoted

/-!
# Reading integers

An integer is written with an optional sign and decimal digits of any scripts, single underscores
being allowed between digits, and whitespace around the whole. A numeral may have at most 4300
digits, so that reading stays fast.

## Main definitions

- `Text.readInteger`: the integer that a text writes, or why it writes none
- `Text.IntegerError`: the two reasons
-/

namespace LinePipe.Text

/-- Why a text does not read as an integer. -/
inductive IntegerError where
  | malformed (text : Text)
  | tooLong (digits : Nat)
  deriving Repr, DecidableEq

/-- The greatest number of digits of a numeral. -/
def digitLimit : Nat := 4300

/-- What to tell about a text that does not read as an integer. At most 200 characters of the quoted
text are shown. -/
def IntegerError.message : IntegerError → Text
  | .malformed text =>
    "invalid literal for int() with base 10: ".toList ++ (quoted text).take 200
  | .tooLong digits =>
    "Exceeds the limit (".toList ++ ofNat digitLimit ++
      " digits) for integer string conversion: value has ".toList ++ ofNat digits ++
      " digits; use sys.set_int_max_str_digits() to increase the limit".toList

/-- Whitespace that may surround a numeral: all of it except the information separators. -/
def isNumeralBlank (c : Char) : Bool :=
  isBlank c && !(0x1C ≤ c.toNat && c.toNat ≤ 0x1F)

/-- The sign of a numeral, and what follows it. -/
def takeSign : Text → Bool × Text
  | '-' :: rest => (true, rest)
  | '+' :: rest => (false, rest)
  | rest => (false, rest)

/-- The digits at the start of a text, single underscores between digits left out, and the rest.
`after` tells whether a digit came just before. The answer is `none` where an underscore stands
first, last or next to another. -/
def takeDigits (after : Bool) : Text → Option (Text × Text)
  | [] => some ([], [])
  | c :: rest =>
    if isDecimal c then (takeDigits true rest).map fun (ds, r) => (c :: ds, r)
    else if c == '_' then
      match rest with
      | [] => none
      | d :: _ => if after && isDecimal d then takeDigits false rest else none
    else some ([], c :: rest)

/-- The integer that a text writes. The length of the numeral is looked at before what follows it,
so a numeral that is too long is reported as that even if junk comes after. -/
def readInteger (t : Text) : Except IntegerError Int :=
  let (negative, body) := takeSign (t.dropWhile isNumeralBlank)
  match takeDigits false body with
  | none => .error (.malformed t)
  | some (digits, rest) =>
    if digits.length > digitLimit then .error (.tooLong digits.length)
    else if digits.isEmpty || !rest.all isNumeralBlank then .error (.malformed t)
    else
      let value : Int := decimalValue digits
      .ok (if negative then -value else value)

end LinePipe.Text
