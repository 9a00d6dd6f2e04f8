import LinePipe.Text.Integer

/-!
# Line regions

A region is a range of whole lines, counted from 0, with both ends included; without a last line it
reaches to the end of the text. On the surface lines are counted from 1.

## Main definitions

- `LineRegion`: a range of lines
- `LineRegion.ofBounds`: the region with given bounds
- `LineRegion.parse`: the region that a text such as `3:7` stands for
- `LineRegion.clamp`: the part of a region that lies in a text of some number of lines
-/

namespace LinePipe

inductive RegionError where
  | malformed (text : Text)
  /-- The text gives a line number below 1. -/
  | belowFirstLine (text : Text)
  | negativeStart (first : Int)
  | endBeforeStart (first last : Int)
  /-- The region starts at `line`, counted from 1, but there are only `count` lines. -/
  | pastLastLine (line count : Nat)
  deriving Repr, DecidableEq

def RegionError.message : RegionError → Text
  | .malformed text =>
    "Invalid line range ".toList ++ Text.quoted text ++ " (expected START:END, 1-based)".toList
  | .belowFirstLine text =>
    "Invalid line range ".toList ++ Text.quoted text ++ ": lines are numbered from 1".toList
  | .negativeStart first => "Region start must be >= 0, got ".toList ++ Text.ofInt first
  | .endBeforeStart first last =>
    "Region end (".toList ++ Text.ofInt last ++ ") is before its start (".toList ++
      Text.ofInt first ++ [')']
  | .pastLastLine line count =>
    "Line range starts at line ".toList ++ Text.ofNat line ++ " but the text has ".toList ++
      Text.ofNat count ++ " line(s)".toList

/-- Why a text gives no region: it is no range of lines, or one of its numerals cannot be read. -/
inductive RangeFailure where
  | region (error : RegionError)
  | numeral (error : Text.IntegerError)
  deriving Repr, DecidableEq

def RangeFailure.message : RangeFailure → Text
  | .region error => error.message
  | .numeral error => error.message

/-- A range of whole lines, counted from 0. -/
structure LineRegion where
  first : Nat := 0
  /-- The last line; `none` if the region reaches to the end. -/
  last : Option Nat := none
  /-- The last line does not come before the first. -/
  ordered : ∀ l ∈ last, first ≤ l := by simp
  deriving Repr, DecidableEq

namespace LineRegion

def whole : LineRegion := {}

def ofBounds (first : Int) (last : Option Int) : Except RegionError LineRegion :=
  if first < 0 then .error (.negativeStart first)
  else
    match last with
    | none => .ok { first := first.toNat }
    | some l =>
      if h : l < first then .error (.endBeforeStart first l)
      else
        .ok { first := first.toNat, last := some l.toNat, ordered := by simp; omega }

/-- The digits before the colon of a line range, and those after it if there is a colon. Whitespace
may stand around each part. -/
def scan (t : Text) : Option (Text × Option Text) :=
  let t := t.dropWhile Text.isBlank
  let before := t.takeWhile Text.isDecimal
  match (t.dropWhile Text.isDecimal).dropWhile Text.isBlank with
  | [] => some (before, none)
  | ':' :: rest =>
    let rest := rest.dropWhile Text.isBlank
    if (rest.dropWhile Text.isDecimal).all Text.isBlank then
      some (before, some (rest.takeWhile Text.isDecimal))
    else none
  | _ :: _ => none

/-- The line number that digits write, or `fallback` if there are none. -/
def lineNumber (fallback : Option Int) (digits : Text) : Except RangeFailure (Option Int) :=
  if digits.isEmpty then .ok fallback
  else
    match Text.readInteger digits with
    | .ok n => .ok (some n)
    | .error e => .error (.numeral e)

/-- The region that a text stands for: one line number, or two with a colon between them, either of
which may be left out. Lines are counted from 1 in the text. -/
def parse (text : Text) : Except RangeFailure LineRegion := do
  let malformed : RangeFailure := .region (.malformed text)
  let some (before, after) := scan text | .error malformed
  if before.isEmpty && (after.getD []).isEmpty then .error malformed
  let first := (← lineNumber (some 1) before).getD 1
  let last ←
    match after with
    | none => pure (some first)
    | some digits => lineNumber none digits
  if first < 1 || last.any (· < 1) then .error (.region (.belowFirstLine text))
  match ofBounds (first - 1) (last.map (· - 1)) with
  | .ok region => .ok region
  | .error e => .error (.region e)

/-- The first line of a region and the line after its last, in a text of `count` lines. A region
that starts past the last line has none, except that the first line of an empty text may be named
though it is not there. -/
def clamp (r : LineRegion) (count : Nat) : Except RegionError (Nat × Nat) :=
  if count == 0 && r.first == 0 then .ok (0, 0)
  else if r.first ≥ count then .error (.pastLastLine (r.first + 1) count)
  else
    match r.last with
    | none => .ok (r.first, count)
    | some l => .ok (r.first, min (l + 1) count)

end LineRegion

end LinePipe
