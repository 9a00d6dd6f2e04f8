import LinePipe.Number.Decimal

/-!
# Rounding

Numbers written with a chosen number of digits. A number is first taken as the nearest one that fits
into 53 binary digits, as stored numbers do, and then rounded to decimal digits; of two equally near
candidates the even one is taken both times.

## Main definitions

- `Ratio`: a quotient of natural numbers
- `Ratio.nearestStored`: the nearest number with 53 binary digits
- `Ratio.fixed`, `Ratio.scientific`, `Ratio.general`: the number with a chosen number of digits
- `Decimal.ofDigits`: a number kept within the limits of stored numbers
- `Decimal.truncate?`: the integer towards zero
-/

namespace LinePipe

/-- A quotient of natural numbers. The denominator is meant to be positive. -/
structure Ratio where
  num : Nat
  den : Nat
  deriving Repr, DecidableEq

namespace Ratio

/-- The natural number nearest to a quotient, the even one of two. -/
def nearest (num den : Nat) : Nat :=
  let q := num / den
  let r := num % den
  if 2 * r < den then q
  else if 2 * r == den then q + q % 2
  else q + 1

/-- The quotient times a power of a base. -/
def scale (x : Ratio) (base : Nat) (e : Int) : Ratio :=
  match e with
  | .ofNat e => ⟨x.num * Nat.pow base e, x.den⟩
  | .negSucc e => ⟨x.num, x.den * Nat.pow base (e + 1)⟩

/-- The natural number nearest to the quotient times a power of a base. -/
def scaled (x : Ratio) (base : Nat) (e : Int) : Nat :=
  let y := x.scale base e
  nearest y.num y.den

/-- The quotient that a coefficient and a decimal exponent give. -/
def ofDecimal (coefficient : Nat) (exponent : Int) : Ratio :=
  Ratio.scale ⟨coefficient, 1⟩ 10 exponent

/-- The binary exponent of a quotient: two to this power is not above it, and twice that is. -/
def binaryExponent (x : Ratio) : Int :=
  let guess : Int := (x.num.log2 : Int) - (x.den.log2 : Int)
  let y := x.scale 2 (-guess)
  if y.num < y.den then guess - 1 else guess

/-- The least binary exponent of the last digit of a stored number. -/
def leastPlace : Int := -1074

/-- The nearest number with 53 binary digits, fewer below the least normal number. -/
def nearestStored (x : Ratio) : Ratio :=
  if x.num == 0 then x
  else
    let place := max (x.binaryExponent - 52) leastPlace
    Ratio.scale ⟨x.scaled 2 (-place), 1⟩ 2 place

/-- The decimal exponent of a positive quotient, found from the numbers of digits. -/
def decimalExponent (x : Ratio) : Int :=
  let guess : Int := (Nat.toDigits 10 x.num).length - (Nat.toDigits 10 x.den).length
  let y := x.scale 10 (-guess)
  if y.num < y.den then guess - 1 else guess

/-- Digits with a point before the last `places` of them. A point that would end them is left out
unless `keep` is set. -/
def withPoint (places n : Nat) (keep : Bool := false) : Text :=
  let digits := Text.ofNat n
  let digits := List.replicate (places + 1 - digits.length) '0' ++ digits
  let whole := digits.take (digits.length - places)
  if places == 0 && !keep then whole
  else whole ++ ['.'] ++ digits.drop (digits.length - places)

/-- The number with a fixed number of digits after the point. -/
def fixed (x : Ratio) (places : Nat) (keep : Bool := false) : Text :=
  withPoint places (x.scaled 10 places) keep

/-- The digits of a number rounded to one before the point and `places` after it, and the exponent
that goes with them. -/
def rounded (x : Ratio) (places : Nat) : Nat × Int :=
  if x.num == 0 then (0, 0)
  else
    let e := x.decimalExponent
    let n := x.scaled 10 (places - e)
    if n ≥ Nat.pow 10 (places + 1) then (n / 10, e + 1) else (n, e)

/-- The number with one digit before the point, `places` after it, and an exponent. -/
def scientific (x : Ratio) (places : Nat) (keep : Bool := false) : Text :=
  let (n, e) := x.rounded places
  withPoint places n keep ++ Decimal.exponentText e

/-- Digits without the zeros after the point that end them, nor a point that would end them. -/
def dropZeros (t : Text) : Text :=
  if t.elem '.' then
    let kept := (t.reverse.dropWhile (· == '0')).reverse
    if kept.getLast? == some '.' then kept.dropLast else kept
  else t

/-- The number with `digits` significant digits, positionally if its exponent is from minus four up
to that number, and with an exponent otherwise. Closing zeros and a closing point are kept only if
`keep` is set. -/
def general (x : Ratio) (digits : Nat) (keep : Bool) : Text :=
  let digits := max digits 1
  let (n, e) := x.rounded (digits - 1)
  let tidy (t : Text) : Text := if keep then t else dropZeros t
  if -4 ≤ e && e < digits then tidy (x.fixed (digits - 1 - e).toNat keep)
  else tidy (withPoint (digits - 1) n keep) ++ Decimal.exponentText e

end Ratio

namespace Decimal

/-- The number of bits of the whole part that no stored number has. -/
def greatestBits : Nat := 1024

/-- The numbers of digits before the point below and above which no number is worth looking at. -/
def sizeLimits : Int × Int := (-330, 310)

/-- The number that a coefficient and a decimal exponent give. Beyond the greatest stored number it
is infinite, and next to zero it is zero. -/
def ofDigits (negative : Bool) (coefficient : Nat) (exponent : Int) : Decimal :=
  let size : Int := (Text.ofNat coefficient).length + exponent
  if coefficient == 0 || size < sizeLimits.1 then .finite negative 0 0
  else if size > sizeLimits.2 then .infinite negative
  else
    let x := (Ratio.ofDecimal coefficient exponent).nearestStored
    if x.num == 0 then .finite negative 0 0
    else if x.num ≥ x.den * Nat.pow 2 greatestBits then .infinite negative
    else .finite negative coefficient exponent

/-- The integer next to the stored number on the side of zero. -/
def truncate? : Decimal → Option Int
  | finite negative coefficient exponent =>
    let x := (Ratio.ofDecimal coefficient exponent).nearestStored
    let whole : Int := (x.num / x.den : Nat)
    some (if negative then -whole else whole)
  | _ => none

end Decimal

end LinePipe
