import LinePipe.Text.Style

/-!
# Console

What reaches the two output streams when something is written. Results go to one stream, notes,
warnings and errors to the other. Without colour every escape sequence is taken out, also one that
belongs to the text itself.

## Main definitions

- `Console`: a console with or without colour
- `Console.written`, `Console.warning`, `Console.error`: what reaches a stream
- `Console.styled`: a text given a style before it is written
-/

namespace LinePipe

structure Console where
  colour : Bool
  deriving Repr, DecidableEq

namespace Console

/-- What reaches a stream when a text is written, with a line feed after it if that is wanted. -/
def written (c : Console) (t : Text) (lineFeed : Bool := true) : Text :=
  (if c.colour then t else Text.plain t) ++ (if lineFeed then ['\n'] else [])

/-- The text in a style, or as it is on a console without colour. -/
def styled (c : Console) (style : Style) (t : Text) : Text :=
  if c.colour then style.apply t else t

def warningStyle : Style := { colour := some .yellow }

def errorStyle : Style := { colour := some .brightRed }

/-- What reaches the stream for messages when a warning is written. -/
def warning (c : Console) (t : Text) (lineFeed : Bool := true) : Text :=
  c.written (warningStyle.apply t) lineFeed

/-- What reaches the stream for messages when an error is written. -/
def error (c : Console) (t : Text) (lineFeed : Bool := true) : Text :=
  c.written (errorStyle.apply t) lineFeed

/-- What reaches the stream for messages when a command fails while its console is in use. -/
def failure (c : Console) (message : Text) : Text :=
  c.error (c.styled errorStyle message)

/-- What reaches the stream for messages when a failure is told after the work is over. -/
def closing (c : Console) (message : Text) : Text :=
  c.written ("Error: ".toList ++ message)

end Console

end LinePipe
