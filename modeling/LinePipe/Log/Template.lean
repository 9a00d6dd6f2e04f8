import LinePipe.Value.Basic

/-!
# Message templates

A log message is a template with places for values. A place is a percent sign with flags, a width, a
precision and a letter that says how the value is written. A template without values is shown as it
is, percent signs included.

## Main definitions

- `Template.fill`: the template with values in its places
- `Template.Failure`: why values do not fit
-/

namespace LinePipe.Template

inductive Failure where
  /-- There are more places than values. -/
  | tooFew
  /-- There are more values than places. -/
  | tooMany
  /-- The template ends within a place. -/
  | incomplete
  /-- No way of writing has this letter. -/
  | unknownLetter (letter : Char) (position : Nat)
  /-- A place names a value, but the values have no names. -/
  | noNames
  /-- No value has this name. -/
  | missingName (name : Text)
  /-- A width or precision given as a value is no integer. -/
  | widthKind
  /-- A width or precision is too great. -/
  | tooBig (isPrecision : Bool)
  /-- The letter wants a number. -/
  | wantsNumber (letter : Char) (kind : Text)
  /-- The letter wants an integer. -/
  | wantsInteger (letter : Char) (kind : Text)
  /-- The letter wants a number with digits after the point. -/
  | wantsReal (kind : Text)
  /-- The letter wants a single character or its code point. -/
  | wantsCharacter
  /-- There is no such code point. -/
  | noCharacter
  deriving Repr, DecidableEq

def Failure.message : Failure → Text
  | .tooFew => "not enough arguments for format string".toList
  | .tooMany => "not all arguments converted during string formatting".toList
  | .incomplete => "incomplete format".toList
  | .unknownLetter letter position =>
    "unsupported format character '".toList ++
      [if ' ' ≤ letter && letter ≤ '~' then letter else '?'] ++ "' (0x".toList ++
      Nat.toDigits 16 letter.toNat ++ ") at index ".toList ++ Text.ofNat position
  | .noNames => "format requires a mapping".toList
  | .missingName name => Text.quoted name
  | .widthKind => "* wants int".toList
  | .tooBig isPrecision =>
    (if isPrecision then "precision" else "width").toList ++ " too big".toList
  | .wantsNumber letter kind =>
    ['%', letter] ++ " format: a real number is required, not ".toList ++ kind
  | .wantsInteger letter kind =>
    ['%', letter] ++ " format: an integer is required, not ".toList ++ kind
  | .wantsReal kind => "must be real number, not ".toList ++ kind
  | .wantsCharacter => "%c requires int or char".toList
  | .noCharacter => "%c arg not in range(0x110000)".toList

/-- A place of a template, apart from its letter. -/
structure Place where
  left : Bool := false
  zeros : Bool := false
  plus : Bool := false
  blank : Bool := false
  alternate : Bool := false
  width : Nat := 0
  precision : Option Nat := none

/-- A text filled up to the width of a place with blanks. -/
def Place.pad (p : Place) (t : Text) : Text :=
  if p.left then Text.padRight p.width t else Text.padLeft p.width t

/-- A number filled up to the width of a place: with zeros after its sign and mark if the place asks
for them, else with blanks. -/
def Place.padNumber (p : Place) (sign mark digits : Text) : Text :=
  if p.zeros && !p.left then
    sign ++ mark ++
      List.replicate (p.width - (sign ++ mark ++ digits).length) '0' ++ digits
  else p.pad (sign ++ mark ++ digits)

/-- The sign of a number at a place. -/
def Place.sign (p : Place) (negative : Bool) : Text :=
  if negative then ['-'] else if p.plus then ['+'] else if p.blank then [' '] else []

/-- An integer at a place, in a base and after a mark that alternate form asks for. -/
def Place.integer (p : Place) (base : Nat) (mark : Text) (n : Int) : Text :=
  let digits := Nat.toDigits base n.natAbs
  let digits := List.replicate (p.precision.getD 0 - digits.length) '0' ++ digits
  p.padNumber (p.sign (n < 0)) (if p.alternate then mark else []) digits

/-- A character in upper case if it is a letter from a to z. -/
def capital (c : Char) : Char :=
  if 'a' ≤ c && c ≤ 'z' then Char.ofNat (c.toNat - 32) else c

/-- A number with digits after the point, at a place and as its letter says. -/
def Place.real (p : Place) (letter : Char) (d : Decimal) : Text :=
  let places := p.precision.getD 6
  let body : Bool × Text :=
    match d with
    | .finite negative coefficient exponent =>
      let x := (Ratio.ofDecimal coefficient exponent).nearestStored
      (negative,
        if letter == 'e' || letter == 'E' then x.scientific places p.alternate
        else if letter == 'f' || letter == 'F' then x.fixed places p.alternate
        else x.general places p.alternate)
    | .infinite negative => (negative, "inf".toList)
    | .undefined => (false, "nan".toList)
  let digits := if ['E', 'F', 'G'].elem letter then body.2.map capital else body.2
  p.padNumber (p.sign body.1) [] digits

/-- A quoted text with its characters beyond ASCII as escapes. -/
def asciiOnly (t : Text) : Text :=
  t.flatMap fun c => if c.toNat < 0x7F then [c] else Text.escapeCode c

/-- The integer of a value that a place for integers in decimal digits takes. -/
def wholeNumber (letter : Char) (v : Value) : Except Failure Int :=
  match v with
  | .integer n => .ok n
  | .boolean b => .ok (if b then 1 else 0)
  | .decimal d =>
    match d.truncate? with
    | some n => .ok n
    | none => .error (.wantsNumber letter v.kind)
  | v => .error (.wantsNumber letter v.kind)

/-- The integer of a value that a place for integers in other bases takes. -/
def exactInteger (letter : Char) (v : Value) : Except Failure Int :=
  match v with
  | .integer n => .ok n
  | .boolean b => .ok (if b then 1 else 0)
  | v => .error (.wantsInteger letter v.kind)

def ofInteger (n : Int) : Decimal :=
  .finite (n < 0) n.natAbs 0

/-- A value at a place, written as a letter says. -/
def write (p : Place) (letter : Char) (position : Nat) (v : Value) : Except Failure Text :=
  let cut (t : Text) : Text := p.pad ((p.precision.map fun n => t.take n).getD t)
  if letter == 's' then .ok (cut v.toText)
  else if letter == 'r' then .ok (cut v.quoted)
  else if letter == 'a' then .ok (cut (asciiOnly v.quoted))
  else if letter == 'd' || letter == 'i' || letter == 'u' then
    (wholeNumber letter v).map (p.integer 10 [])
  else if letter == 'x' then (exactInteger letter v).map (p.integer 16 ['0', 'x'])
  else if letter == 'X' then
    (exactInteger letter v).map fun n => (p.integer 16 ['0', 'x'] n).map capital
  else if letter == 'o' then (exactInteger letter v).map (p.integer 8 ['0', 'o'])
  else if letter == 'c' then
    match v, exactInteger letter v with
    | .text [c], _ => .ok (p.pad [c])
    | _, .ok n =>
      if 0 ≤ n && n < 0x110000 then .ok (p.pad [Char.ofNat n.toNat]) else .error .noCharacter
    | _, .error _ => .error .wantsCharacter
  else if ['e', 'E', 'f', 'F', 'g', 'G'].elem letter then
    match v with
    | .decimal d => .ok (p.real letter d)
    | .integer n => .ok (p.real letter (ofInteger n))
    | .boolean b => .ok (p.real letter (ofInteger (if b then 1 else 0)))
    | v => .error (.wantsReal v.kind)
  else .error (.unknownLetter letter position)

/-- The flags at the start of a text, added to those of a place, and the rest. -/
def readFlags (p : Place) : Text → Place × Text
  | '-' :: rest => readFlags { p with left := true } rest
  | '0' :: rest => readFlags { p with zeros := true } rest
  | '+' :: rest => readFlags { p with plus := true } rest
  | ' ' :: rest => readFlags { p with blank := true } rest
  | '#' :: rest => readFlags { p with alternate := true } rest
  | rest => (p, rest)

def nextValue : List Value → Except Failure (Value × List Value)
  | [] => .error .tooFew
  | v :: rest => .ok (v, rest)

/-- A number at the start of a text, given by digits or, after an asterisk, by the next value. -/
def readSize (t : Text) (vs : List Value) : Except Failure (Option Int × Text × List Value) :=
  match t with
  | '*' :: rest => do
    let (v, vs) ← nextValue vs
    match v with
    | .integer n => return (some n, rest, vs)
    | .boolean b => return (some (if b then 1 else 0), rest, vs)
    | _ => throw .widthKind
  | t =>
    let digits := t.takeWhile Char.isDigit
    let n : Option Int := if digits.isEmpty then none else some (Text.decimalValue digits : Int)
    .ok (n, t.dropWhile Char.isDigit, vs)

def widthLimit : Nat := Nat.pow 2 63 - 1

def precisionLimit : Nat := Nat.pow 2 31 - 1

/-- A width or precision that is not too great. -/
def checkSize (isPrecision : Bool) (n : Option Int) : Except Failure Unit :=
  let limit := if isPrecision then precisionLimit else widthLimit
  if n.any fun n => limit < n.natAbs then .error (.tooBig isPrecision) else .ok ()

/-- A place with the width that was read; a negative one asks for blanks on the right. -/
def Place.withWidth (p : Place) : Option Int → Place
  | none => p
  | some n =>
    if n < 0 then { p with left := true, width := n.natAbs }
    else { p with width := n.toNat }

/-- Names of values, where the values have names. -/
abbrev Names := Option Table

/-- The name in parentheses at the start of a text, nested parentheses included, and the rest. -/
def readName (depth : Nat) : Text → Option (Text × Text)
  | [] => none
  | c :: rest =>
    if c == ')' && depth == 0 then some ([], rest)
    else
      let depth := if c == '(' then depth + 1 else if c == ')' then depth - 1 else depth
      (readName depth rest).map fun (name, rest) => (c :: name, rest)

/-- The value that a place names, put in front of the others. -/
def selectNamed (names : Names) (vs : List Value) (t : Text) :
    Except Failure (List Value × Text) :=
  match t with
  | '(' :: rest =>
    match names, readName 0 rest with
    | none, _ => .error .noNames
    | some _, none => .error .incomplete
    | some table, some (name, rest) =>
      match table.lookup name with
      | some v => .ok (v :: vs, rest)
      | none => .error (.missingName name)
  | t => .ok (vs, t)

/-- A place after its percent sign: the text for it, the values left and the rest of the template.
`size` is the length of the whole template. -/
def fillPlace (size : Nat) (names : Names) (vs : List Value) (t : Text) :
    Except Failure (Text × List Value × Text) := do
  let (vs, t) ← selectNamed names vs t
  let (p, t) := readFlags {} t
  let (width, t, vs) ← readSize t vs
  checkSize false width
  let p := p.withWidth width
  let (precision, t, vs) ← match t with
    | '.' :: rest => do
      let (n, t, vs) ← readSize rest vs
      checkSize true n
      pure (some (n.getD 0), t, vs)
    | t => pure (none, t, vs)
  let p := { p with precision := precision.map Int.toNat }
  let t := match t with
    | c :: rest => if c == 'h' || c == 'l' || c == 'L' then rest else t
    | [] => t
  match t with
  | [] => throw .incomplete
  | letter :: rest =>
    let (v, vs) ← nextValue vs
    let piece ← write p letter (size - t.length) v
    return (piece, vs, rest)

/-- The rest of a template with values in its places. `size` is the length of the whole template,
and the fuel bounds that of the rest. -/
def fillFrom (size : Nat) (names : Names) (fuel : Nat) (vs : List Value) (t : Text) :
    Except Failure Text :=
  match fuel, t with
  | 0, _ => .ok []
  | _, [] => if vs.isEmpty || names.isSome then .ok [] else .error .tooMany
  | fuel + 1, '%' :: '%' :: rest => do
    let filled ← fillFrom size names fuel vs rest
    return '%' :: filled
  | fuel + 1, '%' :: rest => do
    let (piece, vs, rest) ← fillPlace size names vs rest
    let filled ← fillFrom size names fuel vs rest
    return piece ++ filled
  | fuel + 1, c :: rest => do
    let filled ← fillFrom size names fuel vs rest
    return c :: filled

/-- The names that values have: those of a table that is the only value and not empty. -/
def namesOf : List Value → Names
  | [.table (entry :: rest)] => some (entry :: rest)
  | _ => none

def fill (template : Text) (vs : List Value) : Except Failure Text :=
  if vs.isEmpty then .ok template
  else fillFrom template.length (namesOf vs) (template.length + 1) vs template

end LinePipe.Template
