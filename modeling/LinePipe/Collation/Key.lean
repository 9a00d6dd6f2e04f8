import LinePipe.Text.Case
import LinePipe.Text.Digit

/-!
# Collation keys

The order of lines. A line is cut into runs of decimal digits and runs of other characters. Digit
runs compare by the number they write and come before other runs; those compare without regard to
case. Lines that agree so far compare with their cases exchanged, which puts a lower case letter
before its upper case form if that has the smaller code point, and at last as they are, so different
lines never tie.

## Main definitions

- `Chunk`: a run of a line, prepared for comparison
- `SortKey`: what decides the place of a line
- `Collator`: whether digit runs count as numbers; with `Collator.compare` and `Collator.sort`
-/

namespace LinePipe

/-- A run of a line, prepared for comparison. -/
inductive Chunk where
  /-- A digit run: its ASCII digits without leading zeros, and how many digits it has in all. -/
  | number (significant : Text) (width : Nat)
  /-- A run of other characters, folded. -/
  | words (folded : Text)
  deriving Repr, DecidableEq

namespace Chunk

/-- Numbers compare by value, those of equal value by width; a number comes before words; words
compare by code points. Of two numerals without leading zeros the longer writes the greater
number. -/
def order : Chunk → Chunk → Ordering
  | number s w, number s' w' =>
    (compare s.length s'.length).then ((compare s s').then (compare w w'))
  | number _ _, words _ => .lt
  | words _, number _ _ => .gt
  | words k, words k' => compare k k'

instance : Ord Chunk := ⟨order⟩

end Chunk

/-- What decides the place of a line: its chunks, then the line with cases exchanged, then the
line. -/
structure SortKey where
  chunks : List Chunk
  swapped : Text
  text : Text
  deriving Repr, DecidableEq

namespace SortKey

def order (a b : SortKey) : Ordering :=
  (compare a.chunks b.chunks).then ((compare a.swapped b.swapped).then (compare a.text b.text))

instance : Ord SortKey := ⟨order⟩

end SortKey

/-- The maximal runs of decimal digits and of other characters, in order. -/
def digitRuns : Text → List Text
  | [] => []
  | c :: rest =>
    match digitRuns rest with
    | (d :: run) :: runs =>
      if Text.isDecimal c == Text.isDecimal d then (c :: d :: run) :: runs
      else [c] :: (d :: run) :: runs
    | runs => [c] :: runs

/-- A run of characters as it is compared: folded, and without the null characters, which carry no
weight. -/
def foldedWords (run : Text) : Text :=
  (Text.foldCase run).filter (· != '\x00')

def numberChunk (run : Text) : Chunk :=
  .number ((run.map Text.asciiDigit).dropWhile (· == '0')) run.length

def chunkOfRun (run : Text) : Chunk :=
  if run.any Text.isDecimal then numberChunk run else .words (foldedWords run)

/-- An order of lines. -/
structure Collator where
  /-- Whether digit runs compare as numbers. Without it a line is a single run of characters. -/
  numeric : Bool := true
  deriving Repr, DecidableEq

namespace Collator

def chunks (c : Collator) (line : Text) : List Chunk :=
  if c.numeric then (digitRuns line).map chunkOfRun else [.words (foldedWords line)]

def sortKey (c : Collator) (line : Text) : SortKey :=
  ⟨c.chunks line, Text.swapCase line, line⟩

def compare (c : Collator) (a b : Text) : Ordering :=
  Ord.compare (c.sortKey a) (c.sortKey b)

/-- The lines in order. The key of each line is computed once. -/
def sort (c : Collator) (descending : Bool) (lines : List Text) : List Text :=
  let before (a b : SortKey) : Bool :=
    if descending then (Ord.compare b a).isLE else (Ord.compare a b).isLE
  ((lines.map c.sortKey).mergeSort before).map (·.text)

end Collator

end LinePipe
