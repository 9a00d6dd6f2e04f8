import LinePipe.Number.Rounding
import LinePipe.Text.Integer
import LinePipe.Text.Quoted
import LinePipe.Value.Calendar

/-!
# Values

The values that settings files and callers give: texts, numbers, truth values, calendar values,
lists and tables. Their kinds have names, which messages about wrong values use.

## Main definitions

- `Value`: a value
- `Value.kind`: the name of its kind
- `Value.text?`, `Value.integer?`, `Value.boolean?`: what it holds if it is of a kind
- `Value.isTruthy`: whether it counts as true where a truth value is wanted
- `Value.toText`: how it is shown
- `Value.toInteger`: the integer it stands for
-/

namespace LinePipe

inductive Value where
  | text (t : Text)
  | integer (n : Int)
  | decimal (d : Decimal)
  | boolean (b : Bool)
  | calendar (c : Calendar)
  | list (items : List Value)
  | table (entries : List (Text × Value))
  | absent
  deriving Repr

instance : Inhabited Value := ⟨.absent⟩

abbrev Table := List (Text × Value)

namespace Value

def kind : Value → Text
  | text _ => "str".toList
  | integer _ => "int".toList
  | decimal _ => "float".toList
  | boolean _ => "bool".toList
  | calendar c => c.kind
  | list _ => "list".toList
  | table _ => "dict".toList
  | absent => "NoneType".toList

/-- The value, unless it is absent. -/
def present? : Value → Option Value
  | absent => none
  | v => some v

def text? : Value → Option Text
  | text t => some t
  | _ => none

/-- The integer that a value is. Truth values are no integers. -/
def integer? : Value → Option Int
  | integer n => some n
  | _ => none

def boolean? : Value → Option Bool
  | boolean b => some b
  | _ => none

/-- Whether a value counts as true: everything does but zero, the empty and the absent. -/
def isTruthy : Value → Bool
  | text t => !t.isEmpty
  | integer n => n != 0
  | decimal d => !d.isZero
  | boolean b => b
  | calendar _ => true
  | list items => !items.isEmpty
  | table entries => !entries.isEmpty
  | absent => false

def booleanText (b : Bool) : Text :=
  if b then "True".toList else "False".toList

mutual

/-- A value as it is shown inside another one: texts stand between quotation marks, and calendar
values as what makes them. -/
def quoted : Value → Text
  | text t => Text.quoted t
  | integer n => Text.ofInt n
  | decimal d => d.toText
  | boolean b => booleanText b
  | calendar c => c.quoted
  | list items => ['['] ++ Text.joinWith [',', ' '] (quotedItems items) ++ [']']
  | table entries => ['\x7b'] ++ Text.joinWith [',', ' '] (quotedEntries entries) ++ ['\x7d']
  | absent => "None".toList

/-- The values of a list as they are shown. -/
def quotedItems : List Value → List Text
  | [] => []
  | v :: rest => quoted v :: quotedItems rest

/-- The entries of a table as they are shown. -/
def quotedEntries : List (Text × Value) → List Text
  | [] => []
  | (key, v) :: rest => (Text.quoted key ++ [':', ' '] ++ quoted v) :: quotedEntries rest

end

/-- A value as it is shown on its own. Integers are shown however long they are: a limit such as the
one on the digits of numerals that are read, `Text.digitLimit`, is left out here. -/
def toText : Value → Text
  | text t => t
  | calendar c => c.toText
  | v => quoted v

inductive IntegerFailure where
  /-- The text is no numeral. -/
  | numeral (error : Text.IntegerError)
  | infinite
  /-- The value is not a number, though of a kind that numbers have. -/
  | undefined
  /-- Values of this kind are no integers. -/
  | wrongKind (kind : Text)
  deriving Repr, DecidableEq

def IntegerFailure.message : IntegerFailure → Text
  | .numeral error => error.message
  | .infinite => "cannot convert float infinity to integer".toList
  | .undefined => "cannot convert float NaN to integer".toList
  | .wrongKind kind =>
    "int() argument must be a string, a bytes-like object or a real number, not '".toList ++
      kind ++ ['\'']

/-- The integer that a value stands for. Texts are read, and numbers lose what is after the
point. -/
def toInteger : Value → Except IntegerFailure Int
  | text t => (Text.readInteger t).mapError .numeral
  | integer n => .ok n
  | boolean b => .ok (if b then 1 else 0)
  | decimal d =>
    match d, d.truncate? with
    | _, some n => .ok n
    | .undefined, none => .error .undefined
    | _, none => .error .infinite
  | v => .error (.wrongKind v.kind)

end Value

end LinePipe
