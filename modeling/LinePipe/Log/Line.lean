import LinePipe.Log.Level
import LinePipe.Text.Case
import LinePipe.Text.Integer
import LinePipe.Text.Style

/-!
# Log lines

How a log record is shown: its severity and message on a line, painted in a colour that goes with
the severity. When much is logged the place where the record arose is shown too.

## Main definitions

- `Log.Paint`: display codes that are switched on and off around a text
- `Log.line`: a record as it is shown
- `Log.Level.parse`: the severity that a text names
- `Log.Filter`: what is shown, and how
-/

namespace LinePipe.Log

/-! ## Painting -/

/-- Display codes, each with the code that switches it off again. -/
abbrev Paint := List (Nat × Nat)

namespace Paint

def opening (p : Paint) : Text :=
  p.flatMap fun code => displayCode code.1

def closing (p : Paint) : Text :=
  p.flatMap fun code => displayCode code.2

/-- The text in which each code is switched on again where the text switches it off. -/
def reopen (p : Paint) (t : Text) : Text :=
  p.foldl (fun t code =>
    Text.replace (displayCode code.2) (displayCode code.2 ++ displayCode code.1) t) t

/-- The sequence that switches off whatever is on. -/
def resetCode : Text := displayCode 0

/-- The number of characters up to the end of the first reset sequence on the first line. -/
def untilReset? : Text → Option Nat
  | [] => none
  | c :: rest =>
    if resetCode.isPrefixOf (c :: rest) then some resetCode.length
    else if c == '\n' then none
    else (untilReset? rest).map (· + 1)

/-- The text in which the paint is interrupted for each stretch between two reset sequences on one
line. The fuel bounds the length of the text. -/
def interrupt (p : Paint) : Nat → Text → Text
  | 0, t => t
  | _, [] => []
  | fuel + 1, c :: rest =>
    if resetCode.isPrefixOf (c :: rest) then
      match untilReset? ((c :: rest).drop resetCode.length) with
      | some n =>
        let size := resetCode.length + n
        p.closing ++ (c :: rest).take size ++ p.opening ++
          interrupt p fuel ((c :: rest).drop size)
      | none => c :: interrupt p fuel rest
    else c :: interrupt p fuel rest

/-- The text in which the paint is interrupted for each line break. -/
def aroundBreaks (p : Paint) : Text → Text
  | [] => []
  | '\r' :: '\n' :: rest => p.closing ++ ['\r', '\n'] ++ p.opening ++ aroundBreaks p rest
  | '\n' :: rest => p.closing ++ ['\n'] ++ p.opening ++ aroundBreaks p rest
  | c :: rest => c :: aroundBreaks p rest

def apply (p : Paint) (t : Text) : Text :=
  let t := if t.elem escapeChar then p.reopen t else t
  p.aroundBreaks (p.opening ++ p.interrupt (t.length + 1) t ++ p.closing)

end Paint

/-- The paints for severities from the given one upwards, the greatest first. -/
def paints : List (Level × Paint) :=
  [(Level.critical, [(91, 39)]), (Level.error, [(31, 39)]), (Level.warning, [(33, 39)]),
   (Level.info, [(32, 39)]), (Level.debug, [(90, 39)]), (Level.trace, [(34, 39)])]

/-- The paint for severities below all named ones. -/
def faint : Paint := [(2, 22), (31, 39)]

def paintFor (level : Level) : Paint :=
  ((paints.find? fun entry => entry.1 ≤ level).map (·.2)).getD faint

/-- A record as it is shown: its severity, where it arose if that is wanted, and its message. -/
def line (level : Level) (place message : Text) : Text :=
  (paintFor level).apply (['['] ++ level.name ++ [']', ' '] ++ place ++ message)

/-- Where a record arose, as it is shown: the file, the line in it and the function. -/
def place (file : Text) (number : Int) (function : Text) : Text :=
  let base := ((Text.splitOn '/' file).getLast?).getD []
  ['['] ++ base ++ [':'] ++ Text.ofInt number ++ [']', ' ', '['] ++ function ++ [']', ' ']

/-! ## What is shown -/

/-- The names of severities as users write them. -/
def Level.spoken : List (Text × Level) :=
  [("TRACE".toList, trace), ("DEBUG".toList, debug), ("INFO".toList, info),
   ("WARNING".toList, warning), ("WARN".toList, warning), ("ERROR".toList, error),
   ("CRITICAL".toList, critical), ("FATAL".toList, critical), ("NOTSET".toList, unset)]

/-- The severity that a text names, by a name in any case or by its number. -/
def Level.parse (t : Text) : Except Text.IntegerError (Option Level) :=
  let name := Text.upper (Text.strip t)
  if !name.isEmpty && name.all Text.isDigitLike then (Text.readInteger name).map some
  else .ok (spoken.lookup name)

structure Filter where
  /-- The least severity that is shown. -/
  level : Level
  deriving Repr, DecidableEq

namespace Filter

/-- Shows from a severity on. Without one, that of the environment is used unless it is unset, and
else only the most severe records are shown. -/
def setUp (level environment : Option Level) : Filter :=
  ⟨level.getD (match environment with
    | some n => if n == Level.unset then Level.critical else n
    | none => Level.critical)⟩

def isDetailed (f : Filter) : Bool :=
  f.level < Level.info

/-- The parts of a shown line, by name. -/
def format (f : Filter) : Text :=
  if f.isDetailed then
    "[%(levelname)s] [%(filename)s:%(lineno)d] [%(funcName)s] %(message)s".toList
  else "[%(levelname)s] %(message)s".toList

/-- Whether a record of this severity is shown. -/
def accepts (f : Filter) (level : Level) : Bool :=
  f.level ≤ level

/-- A record as it is shown, with a line break; nothing if it is not severe enough. -/
def shown (f : Filter) (level : Level) (place message : Text) : Text :=
  if f.accepts level then
    line level (if f.isDetailed then place else []) message ++ ['\n']
  else []

end Filter

end LinePipe.Log
