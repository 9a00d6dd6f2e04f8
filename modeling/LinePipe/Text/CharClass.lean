/-!
# Classes of characters given by code point ranges

A class of characters is a list of inclusive code point ranges in increasing order. Membership
stops at the first range that starts beyond the code point.

## Main definitions

- `CharClass`: the ranges
- `CharClass.holds`: whether a character belongs to the class
-/

namespace LinePipe

/-- Inclusive code point ranges, from low to high. -/
abbrev CharClass := List (Nat × Nat)

/-- Whether the code point lies in one of the ranges. -/
def CharClass.covers : CharClass → Nat → Bool
  | [], _ => false
  | (first, last) :: rest, n =>
    if n < first then false else if n ≤ last then true else covers rest n

def CharClass.holds (ranges : CharClass) (c : Char) : Bool :=
  ranges.covers c.toNat

end LinePipe
