import LinePipe.Buffer.Region
import LinePipe.Outcome
import LinePipe.Settings.Newline
import LinePipe.Text.LineBreak

/-!
# Text buffers

A text cut into lines, with what it takes to put it together again: the line break between lines and
whether one follows the last line.

## Main definitions

- `TextBuffer`: the lines and the line break
- `TextBuffer.ofText`, `TextBuffer.toText`: from a text and back
- `TextBuffer.linesIn`, `TextBuffer.replace`: reading and writing a region
-/

namespace LinePipe

/-- A text cut into lines. -/
structure TextBuffer where
  lines : List Text
  /-- The line break written between lines. -/
  newline : Text := ['\n']
  /-- Whether a line break follows the last line. -/
  finalNewline : Bool := false
  deriving Repr, DecidableEq

/-- The line break that a text uses: a carriage return and a line feed if it has one such, else a
line feed. -/
def detectNewline (t : Text) : Text :=
  if Text.hasCarriageBreak t then ['\r', '\n'] else ['\n']

/-- The line break that a policy asks for in a text. -/
def NewlineMode.breakFor (mode : NewlineMode) (t : Text) : Text :=
  match mode with
  | auto => detectNewline t
  | lf => ['\n']
  | crlf => ['\r', '\n']

namespace TextBuffer

/-- The text cut at its line breaks. The policy decides only which break joins the lines again. -/
def ofText (t : Text) (mode : NewlineMode := .auto) : TextBuffer :=
  let newline := mode.breakFor t
  if t.isEmpty then { lines := [], newline }
  else
    let pieces := Text.breakLines t
    if pieces.getLast? == some [] then
      { lines := pieces.dropLast, newline, finalNewline := true }
    else { lines := pieces, newline }

def toText (b : TextBuffer) : Text :=
  Text.joinWith b.newline b.lines ++
    (if b.finalNewline && !b.lines.isEmpty then b.newline else [])

def linesIn (b : TextBuffer) (r : LineRegion) : Except RegionError (List Text) :=
  (r.clamp b.lines.length).map fun (start, stop) => (b.lines.take stop).drop start

/-- The buffer with the lines from `start` up to `stop` replaced. -/
def splice (b : TextBuffer) (start stop : Nat) (lines : List Text) : TextBuffer :=
  { b with lines := b.lines.take start ++ lines ++ b.lines.drop stop }

def replace (b : TextBuffer) (r : LineRegion) (lines : List Text) :
    Outcome RegionError TextBuffer := do
  let (start, stop) ← Outcome.ofExcept (r.clamp b.lines.length)
  Outcome.log Log.Level.debug <|
    "replacing lines [".toList ++ Text.ofNat start ++ [',', ' '] ++ Text.ofNat stop ++
      ") with ".toList ++ Text.ofNat lines.length ++ " line(s)".toList
  return b.splice start stop lines

end TextBuffer

end LinePipe
