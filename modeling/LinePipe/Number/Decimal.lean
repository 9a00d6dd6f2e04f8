import LinePipe.Text.Basic

/-!
# Decimal numbers

Numbers in decimal positional form, and a text that shows a number with no more digits than it was
given.

## Main definitions

- `Decimal`: a signed coefficient times a power of ten, or one of the values that are no number
- `Decimal.toText`: the number in words of digits
-/

namespace LinePipe

inductive Decimal where
  /-- The coefficient times ten to the power of the exponent, with a sign even for zero. -/
  | finite (negative : Bool) (coefficient : Nat) (exponent : Int)
  | infinite (negative : Bool)
  | undefined
  deriving Repr, DecidableEq

namespace Decimal

def isZero : Decimal → Bool
  | finite _ coefficient _ => coefficient == 0
  | _ => false

def signText (negative : Bool) : Text :=
  if negative then ['-'] else []

/-- Digits with the point after the first `point` of them, filled up with zeros on either side, and
at least one digit on each side of the point. -/
def positional (digits : Text) (point : Int) : Text :=
  if point ≤ 0 then
    ['0', '.'] ++ List.replicate (-point).toNat '0' ++ digits
  else
    let whole := digits.take point.toNat
    let fraction := digits.drop point.toNat
    whole ++ List.replicate (point.toNat - digits.length) '0' ++ ['.'] ++
      (if fraction.isEmpty then ['0'] else fraction)

/-- An exponent with its sign and at least two digits. -/
def exponentText (e : Int) : Text :=
  ['e', if e < 0 then '-' else '+'] ++
    (if e.natAbs < 10 then ['0'] else []) ++ Text.ofNat e.natAbs

/-- Digits with the point after the first of them, and the exponent that this takes. -/
def scientific (digits : Text) (point : Int) : Text :=
  digits.take 1 ++ (if digits.length ≤ 1 then [] else '.' :: digits.drop 1) ++
    exponentText (point - 1)

/-- The number in digits. Numbers from a ten thousandth up to ten to the sixteenth are written
positionally, the others with an exponent. -/
def toText : Decimal → Text
  | finite negative coefficient exponent =>
    let written := Text.ofNat coefficient
    let digits := (written.reverse.dropWhile (· == '0')).reverse
    let point : Int := written.length + exponent
    signText negative ++
      (if coefficient == 0 then ['0', '.', '0']
       else if -4 < point && point ≤ 16 then positional digits point
       else scientific digits point)
  | infinite negative => signText negative ++ "inf".toList
  | undefined => "nan".toList

end Decimal

end LinePipe
