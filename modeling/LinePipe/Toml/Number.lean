import LinePipe.Text.Case
import LinePipe.Text.Integer
import LinePipe.Toml.Calendar

/-!
# Numbers in settings files

Integers in four bases and numbers with a point or an exponent. Underscores may stand between
digits, and whitespace other than spaces and tabs after the number. Leading zeros are refused, and
so is a point without a digit after it.

## Main definitions

- `Toml.Number.read`: the number that a whole piece of text writes
-/

namespace LinePipe.Toml.Number

def starts (part : String) (t : Text) : Bool :=
  Text.startsWith part.toList t

/-- The base that a prefix asks for, and the digits of that base. -/
def baseOf (t : Text) : Nat × (Char → Bool) :=
  if starts "0b" t then (2, fun c => c == '0' || c == '1')
  else if starts "0o" t then (8, fun c => '0' ≤ c && c ≤ '7')
  else if starts "0x" t then
    (16, fun c => Calendar.isDigit c || ('a' ≤ c && c ≤ 'f') || ('A' ≤ c && c ≤ 'F'))
  else (10, Calendar.isDigit)

/-- The text without the underscores that stand between two digits; `before` tells whether a digit
came just before. -/
def dropSeparators (isDigit : Char → Bool) (before : Bool) : Text → Text
  | [] => []
  | '_' :: c :: rest =>
    if before && isDigit c then dropSeparators isDigit false (c :: rest)
    else '_' :: dropSeparators isDigit false (c :: rest)
  | c :: rest => c :: dropSeparators isDigit (isDigit c) rest

/-- The value of a digit of a base up to sixteen: a decimal digit of any script or a lower case
letter. -/
def digitOf? (base : Nat) (c : Char) : Option Nat :=
  let value := if 'a' ≤ c && c ≤ 'f' then some (c.toNat - 'a'.toNat + 10) else Text.digitValue? c
  value.filter (· < base)

/-- The natural number that digits of a base write. -/
def naturalOf? (base : Nat) (digits : Text) : Option Nat :=
  if digits.isEmpty then none
  else (digits.mapM (digitOf? base)).map fun values =>
    values.foldl (fun value d => base * value + d) 0

/-- An exponent at the end of a number: nothing, or a mark, an optional sign and digits. -/
def exponent? : Text → Option Int
  | [] => some 0
  | 'e' :: rest =>
    let (negative, digits) := Text.takeSign rest
    if digits.isEmpty || !digits.all Text.isDecimal then none
    else
      let value : Int := Text.decimalValue digits
      some (if negative then -value else value)
  | _ => none

/-- The number that a text without sign writes in digits with a point or an exponent. -/
def pointed? (negative : Bool) (t : Text) : Option Decimal := do
  let whole := t.takeWhile Text.isDecimal
  let rest := t.dropWhile Text.isDecimal
  let (fraction, rest) := match rest with
    | '.' :: more => (more.takeWhile Text.isDecimal, more.dropWhile Text.isDecimal)
    | _ => ([], rest)
  if whole.isEmpty && fraction.isEmpty then none
  let exponent ← exponent? rest
  return .ofDigits negative (Text.decimalValue (whole ++ fraction)) (exponent - fraction.length)

/-- Whether a piece without sign has a zero in front that is not allowed, or a point with nothing
before it. -/
def hasBadStart (signed : Bool) (t : Text) : Bool :=
  t.length > 1 &&
    ((starts "0" t && !(["0.", "0o", "0x", "0b", "0e", "0E"].any fun p => starts p t)) ||
      (signed && starts "." t))

/-- Whether a lower case piece has a point with nothing after it. -/
def hasBadPoint (t : Text) : Bool :=
  t.getLast? == some '.' ||
    (!starts "0x" t && (t.takeWhile (· != 'e')).getLast? == some '.')

/-- The integer of a base that a lower case piece without sign writes. Only the decimal ones are
bounded in length. -/
def integer? (negative : Bool) (base : Nat) (t : Text) : Option Int := do
  if base == 10 && Text.digitLimit < t.length then none
  let value ← naturalOf? base (if base == 10 then t else t.drop 2)
  return if negative then -value else value

/-- The values that are no number, by name. -/
def named? (negative : Bool) (t : Text) : Option Decimal :=
  if t == "inf".toList then some (.infinite negative)
  else if t == "nan".toList then some .undefined
  else none

/-- The number that a whole piece of text writes. -/
def read (piece : Text) : Option Value :=
  let signed := starts "+" piece || starts "-" piece
  let negative := starts "-" piece
  let body := if signed then piece.drop 1 else piece
  let (base, isDigit) := baseOf body
  if hasBadStart signed body || (signed && base != 10) then none
  else
    let clean := Text.lower (dropSeparators isDigit false body)
    if clean.elem '_' || hasBadPoint clean then none
    else
      let numeral := Text.stripRight clean
      match integer? negative base numeral, named? negative body with
      | some n, _ => some (.integer n)
      | none, some d => some (.decimal d)
      | none, none =>
        if numeral.elem '.' || numeral.elem 'e' then (pointed? negative numeral).map .decimal
        else none

end LinePipe.Toml.Number
