import LinePipe.Text.Digit
import LinePipe.Value.Basic

/-!
# Calendar values in settings files

Dates, times of day and moments are written with fixed numbers of digits; seconds may be left out. A
piece of text that looks like one but gives no real date or time is an error and not a number.

## Main definitions

- `Toml.Calendar.shape?`: the calendar value whose form a text has
- `Toml.Calendar.Shape.value?`: the value, if it gives a date or time that exists
-/

namespace LinePipe.Toml.Calendar

open LinePipe.Calendar (Date Time Zone)

/-- A piece of text as a calendar value: the numbers of the date and of the time of day that it
has. -/
structure Shape where
  /-- Year, month and day. -/
  date : Option (Nat × Nat × Nat)
  /-- Hour, minute, second and millionths of a second. -/
  time : Option (Nat × Nat × Nat × Nat)
  /-- Whether a mark stands before the time of day. -/
  separated : Bool
  zone : Option Zone
  deriving Repr, DecidableEq

def isDigit (c : Char) : Bool :=
  '0' ≤ c && c ≤ '9'

/-- The number that exactly `n` digits at the start of a text write, and the rest. -/
def takeNumber (n : Nat) (t : Text) : Option (Nat × Text) :=
  let digits := t.take n
  if digits.length == n && digits.all isDigit then some (Text.decimalValue digits, t.drop n)
  else none

/-- One of the given characters at the start of a text, and the rest. -/
def takeMark (marks : List Char) : Text → Option Text
  | [] => none
  | c :: rest => if marks.elem c then some rest else none

/-- A date at the start of a text. The digits of the year may be of any script. -/
def takeDate (t : Text) : Option ((Nat × Nat × Nat) × Text) := do
  let year := t.take 4
  if year.length < 4 || !year.all Text.isDecimal then none
  let t ← takeMark ['-'] (t.drop 4)
  let (month, t) ← takeNumber 2 t
  let t ← takeMark ['-'] t
  let (day, t) ← takeNumber 2 t
  return ((Text.decimalValue year, month, day), t)

/-- The millionths in the fraction of a second that a text may start with, and the rest. Digits
after the sixth do not count. -/
def takeFraction : Text → Option (Nat × Text)
  | '.' :: t =>
    let digits := t.takeWhile isDigit
    if digits.isEmpty then none
    else
      some (Text.decimalValue ((digits ++ List.replicate 6 '0').take 6), t.dropWhile isDigit)
  | t => some (0, t)

/-- A time of day at the start of a text. Without seconds it is at the start of the minute. -/
def takeTime (t : Text) : Option ((Nat × Nat × Nat × Nat) × Text) := do
  let (hour, t) ← takeNumber 2 t
  let t ← takeMark [':'] t
  let (minute, t) ← takeNumber 2 t
  match t with
  | ':' :: t => do
    let (second, t) ← takeNumber 2 t
    let (millionths, t) ← takeFraction t
    return ((hour, minute, second, millionths), t)
  | t => return ((hour, minute, 0, 0), t)

/-- The time zone that a whole text gives. But for universal time it has the text for its name. -/
def zone? : Text → Option Zone
  | ['Z'] => some .universal
  | ['z'] => some .universal
  | t => do
    let rest ← takeMark ['+', '-', '|'] t
    let (hours, rest) ← takeNumber 2 rest
    let rest ← takeMark [':'] rest
    let (minutes, rest) ← takeNumber 2 rest
    if rest.isEmpty then Zone.ofNumbers? t (t.head? == some '-') hours minutes else none

/-- The time of day that a whole text gives, with its time zone. -/
def timeShape (date : Option (Nat × Nat × Nat)) (separated : Bool) (t : Text) :
    Option Shape := do
  let (time, rest) ← takeTime t
  if rest.isEmpty then return ⟨date, some time, separated, none⟩
  let zone ← zone? rest
  return ⟨date, some time, separated, some zone⟩

/-- The calendar value whose form a whole text has. -/
def shape? (t : Text) : Option Shape :=
  match takeDate t with
  | some (date, []) => some ⟨some date, none, false, none⟩
  | some (date, c :: rest) =>
    if c == 'T' || c == 't' || c == ' ' then timeShape (some date) true rest
    else timeShape (some date) false (c :: rest)
  | none => timeShape none false t

def date? : Nat × Nat × Nat → Option Date
  | (year, month, day) => Date.ofNumbers? year month day

def time? : Nat × Nat × Nat × Nat → Option Time
  | (hour, minute, second, millionths) => Time.ofNumbers? hour minute second millionths

/-- The calendar value of a shape, if it gives one that exists. -/
def Shape.value? (s : Shape) : Option Calendar :=
  match s.date, s.time with
  | some date, some time =>
    if s.separated then do return .moment (← date? date) (← time? time) s.zone else none
  | some date, none => (date? date).map .date
  | none, some time => if s.zone.isNone then (time? time).map .time else none
  | none, none => none

end LinePipe.Toml.Calendar
