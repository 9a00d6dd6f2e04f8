import LinePipe.Text.Basic

/-!
# Terminal styles

Colour and emphasis written into a text as escape sequences, and the removal of such sequences from
a text meant for a plain stream.

## Main definitions

- `Style`: what a text may be given
- `Style.apply`: the text between the sequences that switch the style on and everything off
- `Text.plain`: the text without escape sequences
-/

namespace LinePipe

inductive Colour where
  | black | red | green | yellow | blue | magenta | cyan | white
  | brightBlack | brightRed | brightGreen | brightYellow
  | brightBlue | brightMagenta | brightCyan | brightWhite
  deriving Repr, DecidableEq

def Colour.named : List (Text × Colour) :=
  [("black".toList, .black), ("red".toList, .red), ("green".toList, .green),
   ("yellow".toList, .yellow), ("blue".toList, .blue), ("magenta".toList, .magenta),
   ("cyan".toList, .cyan), ("white".toList, .white),
   ("bright_black".toList, .brightBlack), ("bright_red".toList, .brightRed),
   ("bright_green".toList, .brightGreen), ("bright_yellow".toList, .brightYellow),
   ("bright_blue".toList, .brightBlue), ("bright_magenta".toList, .brightMagenta),
   ("bright_cyan".toList, .brightCyan), ("bright_white".toList, .brightWhite)]

/-- The number that selects the colour for the foreground. -/
def Colour.code : Colour → Nat
  | .black => 30 | .red => 31 | .green => 32 | .yellow => 33
  | .blue => 34 | .magenta => 35 | .cyan => 36 | .white => 37
  | .brightBlack => 90 | .brightRed => 91 | .brightGreen => 92 | .brightYellow => 93
  | .brightBlue => 94 | .brightMagenta => 95 | .brightCyan => 96 | .brightWhite => 97

def escapeChar : Char := '\x1b'

/-- The sequence that sends a terminal one display code. -/
def displayCode (n : Nat) : Text :=
  [escapeChar, '['] ++ Text.ofNat n ++ ['m']

/-- A colour and emphasis; `none` leaves an attribute alone. -/
structure Style where
  colour : Option Colour := none
  bold : Option Bool := none
  underline : Option Bool := none
  deriving Repr, DecidableEq

def Style.opening (s : Style) : Text :=
  (s.colour.map fun c => displayCode c.code).getD [] ++
  (s.bold.map fun on => displayCode (if on then 1 else 22)).getD [] ++
  (s.underline.map fun on => displayCode (if on then 4 else 24)).getD []

/-- The text in a style. Everything is switched off after it. -/
def Style.apply (s : Style) (t : Text) : Text :=
  s.opening ++ t ++ displayCode 0

namespace Text

/-- The characters that may stand between the bracket and the letter of an escape sequence. -/
def isEscapeParameter (c : Char) : Bool :=
  c.isDigit || c == ';' || c == '?'

/-- The number of characters of the escape sequence at the start of a text, if there is one: the
escape character, a bracket, parameters and a letter. -/
def escapeLength? : Text → Option Nat
  | c :: '[' :: rest =>
    if c == escapeChar then
      match rest.dropWhile isEscapeParameter with
      | [] => none
      | final :: _ =>
        if final.isAlpha then some ((rest.takeWhile isEscapeParameter).length + 3) else none
    else none
  | _ => none

/-- The text without its first `skip` characters and without the escape sequences after them. -/
def plainFrom : Nat → Text → Text
  | _, [] => []
  | skip + 1, _ :: rest => plainFrom skip rest
  | 0, c :: rest =>
    match escapeLength? (c :: rest) with
    | some n => plainFrom (n - 1) rest
    | none => c :: plainFrom 0 rest

def plain (t : Text) : Text :=
  plainFrom 0 t

end Text

end LinePipe
