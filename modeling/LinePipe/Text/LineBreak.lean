import LinePipe.Text.Basic

/-!
# Line breaks

A line break is a line feed, together with one carriage return directly before it if there is one.
A carriage return elsewhere is an ordinary character of its line, unless breaks are normalised.

## Main definitions

- `Text.breakLines`: the lines between the line breaks
- `Text.normalizeBreaks`: every carriage return, alone or before a line feed, as one line feed
- `Text.hasCarriageBreak`: whether some line break is a carriage return and a line feed
-/

namespace LinePipe.Text

/-- The lines between the line breaks, one more than there are breaks. -/
def breakLines : Text → List Text
  | [] => [[]]
  | '\r' :: '\n' :: rest => [] :: breakLines rest
  | '\n' :: rest => [] :: breakLines rest
  | c :: rest =>
    match breakLines rest with
    | [] => [[c]]
    | line :: lines => (c :: line) :: lines

/-- The text with a line feed for each carriage return, a line feed directly after it included. -/
def normalizeBreaks : Text → Text
  | [] => []
  | '\r' :: '\n' :: rest => '\n' :: normalizeBreaks rest
  | '\r' :: rest => '\n' :: normalizeBreaks rest
  | c :: rest => c :: normalizeBreaks rest

/-- Whether a carriage return stands directly before a line feed somewhere. -/
def hasCarriageBreak : Text → Bool
  | [] => false
  | '\r' :: '\n' :: _ => true
  | _ :: rest => hasCarriageBreak rest

end LinePipe.Text
