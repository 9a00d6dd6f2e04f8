import LinePipe.Text.Quoted

/-!
# Calendar values

Days, times of day, and moments, which are times of day on a day, in a time zone or in none. On its
own a value is shown in digits between marks, and inside another value as what makes it.

## Main definitions

- `Calendar.Date`, `Calendar.Time`: a day and a time of day that exist
- `Calendar.Zone`: a time zone
- `Calendar`: a calendar value
- `Calendar.toText`, `Calendar.quoted`: how it is shown on its own and inside another value
-/

namespace LinePipe

namespace Calendar

/-! ## Days -/

def isLeap (year : Nat) : Bool :=
  year % 4 == 0 && (year % 100 != 0 || year % 400 == 0)

def monthDays (year month : Nat) : Nat :=
  if month == 2 then (if isLeap year then 29 else 28)
  else if [4, 6, 9, 11].elem month then 30 else 31

/-- A day of a year of at most four digits. -/
structure Date where
  year : Nat
  month : Nat
  day : Nat
  year_range : 1 ≤ year ∧ year ≤ 9999
  month_range : 1 ≤ month ∧ month ≤ 12
  day_range : 1 ≤ day ∧ day ≤ monthDays year month
  deriving Repr, DecidableEq

/-- The day that three numbers give, if there is one. -/
def Date.ofNumbers? (year month day : Nat) : Option Date :=
  if h : (1 ≤ year ∧ year ≤ 9999) ∧ (1 ≤ month ∧ month ≤ 12) ∧
      1 ≤ day ∧ day ≤ monthDays year month then
    some ⟨year, month, day, h.1, h.2.1, h.2.2⟩
  else none

def Date.numbers (d : Date) : List Nat :=
  [d.year, d.month, d.day]

/-! ## Times of day -/

/-- A time of day, down to a millionth of a second. -/
structure Time where
  hour : Nat
  minute : Nat
  second : Nat
  millionths : Nat
  hour_lt : hour < 24
  minute_lt : minute < 60
  second_lt : second < 60
  millionths_lt : millionths < 1000000
  deriving Repr, DecidableEq

/-- The time of day that four numbers give, if there is one. -/
def Time.ofNumbers? (hour minute second millionths : Nat) : Option Time :=
  if h : hour < 24 ∧ minute < 60 ∧ second < 60 ∧ millionths < 1000000 then
    some ⟨hour, minute, second, millionths, h.1, h.2.1, h.2.2.1, h.2.2.2⟩
  else none

/-- The numbers of a time of day. Those that are zero are left out at the end, but the hour and the
minute are not. -/
def Time.numbers (t : Time) : List Nat :=
  [t.hour, t.minute] ++
    if t.millionths != 0 then [t.second, t.millionths]
    else if t.second != 0 then [t.second] else []

/-- A time zone: its name, and by how many minutes its clocks are ahead of universal time. -/
structure Zone where
  name : Text
  ahead : Int
  ahead_lt : ahead.natAbs < 24 * 60
  deriving Repr, DecidableEq

def Zone.universal : Zone where
  name := "UTC".toList
  ahead := 0
  ahead_lt := by decide

/-- The zone of a name whose clocks are ahead by hours and minutes, or behind by that much, if there
are such hours and minutes. -/
def Zone.ofNumbers? (name : Text) (behind : Bool) (hours minutes : Nat) : Option Zone :=
  if h : hours < 24 ∧ minutes < 60 then
    let offset : Int := 60 * hours + minutes
    some ⟨name, if behind then -offset else offset, by split <;> omega⟩
  else none

/-! ## Values on their own -/

/-- The digits of a number, with zeros in front for at least `width` of them. -/
def digits (width n : Nat) : Text :=
  List.replicate (width - (Text.ofNat n).length) '0' ++ Text.ofNat n

def Date.toText (d : Date) : Text :=
  digits 4 d.year ++ ['-'] ++ digits 2 d.month ++ ['-'] ++ digits 2 d.day

/-- A time of day in digits. Millionths are left out in a whole second. -/
def Time.toText (t : Time) : Text :=
  digits 2 t.hour ++ [':'] ++ digits 2 t.minute ++ [':'] ++ digits 2 t.second ++
    if t.millionths == 0 then [] else '.' :: digits 6 t.millionths

/-- By how much the clocks of a zone are ahead, in hours and minutes. -/
def Zone.toText (z : Zone) : Text :=
  [if z.ahead < 0 then '-' else '+'] ++ digits 2 (z.ahead.natAbs / 60) ++ [':'] ++
    digits 2 (z.ahead.natAbs % 60)

/-! ## Values inside others -/

/-- What makes a value: a name and arguments. -/
def making (name : String) (arguments : List Text) : Text :=
  name.toList ++ ['('] ++ Text.joinWith [',', ' '] arguments ++ [')']

def named (name : String) (argument : Text) : Text :=
  name.toList ++ ['='] ++ argument

/-- A span of minutes in days and seconds. The seconds are never negative. -/
def quotedSpan (minutes : Int) : Text :=
  let days := minutes / (24 * 60)
  let seconds := minutes % (24 * 60) * 60
  let parts :=
    (if days == 0 then [] else [named "days" (Text.ofInt days)]) ++
      if seconds == 0 then [] else [named "seconds" (Text.ofInt seconds)]
  making "datetime.timedelta" (if parts.isEmpty then [['0']] else parts)

def Zone.quoted (z : Zone) : Text :=
  making "datetime.timezone" [quotedSpan z.ahead, Text.quoted z.name]

end Calendar

inductive Calendar where
  | date (d : Calendar.Date)
  | time (t : Calendar.Time)
  | moment (d : Calendar.Date) (t : Calendar.Time) (zone : Option Calendar.Zone)
  deriving Repr, DecidableEq

namespace Calendar

/-- The name of the kind of a value. -/
def kind : Calendar → Text
  | date _ => "date".toList
  | time _ => "time".toList
  | moment _ _ _ => "datetime".toList

/-- A value as it is shown on its own. -/
def toText : Calendar → Text
  | date d => d.toText
  | time t => t.toText
  | moment d t zone => d.toText ++ [' '] ++ t.toText ++ (zone.map Zone.toText).getD []

/-- A value as it is shown inside another one. -/
def quoted : Calendar → Text
  | date d => making "datetime.date" (d.numbers.map Text.ofNat)
  | time t => making "datetime.time" (t.numbers.map Text.ofNat)
  | moment d t zone =>
    making "datetime.datetime" <|
      (d.numbers ++ t.numbers).map Text.ofNat ++
        zone.toList.map fun z => named "tzinfo" z.quoted

end Calendar

end LinePipe
