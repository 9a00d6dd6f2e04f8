import LinePipe.Toml.Number
import LinePipe.Toml.Section

/-!
# Pieces of settings files

The smallest parts of a settings file: comments, strings, keys, truth values, numbers and calendar
values. Each reader takes a piece from the start of a text and returns it with the rest.

## Main definitions

- `Toml.Fault`: why a text is no settings file
- `Toml.readString`, `Toml.readKey`, `Toml.readScalar`: the readers
- `Toml.skipTrail`: past what may stand after a value on its line
- `Toml.skipBlank`: past what may stand between the parts of a list or a table
-/

namespace LinePipe.Toml

inductive Fault where
  /-- The text is not in the right form. -/
  | malformed
  /-- Two entries of one key do not go together. -/
  | clash (clash : Clash)

def isSpace (c : Char) : Bool :=
  c == ' ' || c == '\t'

def isLineEnd (c : Char) : Bool :=
  c == '\n' || c == '\r'

def isControl (c : Char) : Bool :=
  c.toNat == 0x7F || (c.toNat ≤ 0x1F && c != '\t')

/-- The text without the spaces and tabs at its start. -/
def skipSpaces (t : Text) : Text :=
  t.dropWhile isSpace

/-- The text without a given character at its start, if it is there. -/
def skipOne (c : Char) : Text → Text
  | [] => []
  | d :: rest => if d == c then rest else d :: rest

/-- The rest after a comment, which reaches to the end of its line. -/
def skipComment (t : Text) : Except Fault Text :=
  if (t.takeWhile fun c => !isLineEnd c).any isControl then .error .malformed
  else .ok (t.dropWhile fun c => !isLineEnd c)

/-- The rest after the end of a line: spaces and a comment may stand before it. -/
def skipTrail (t : Text) : Except Fault Text := do
  match t.dropWhile fun c => isSpace c || c == '\r' with
  | [] => return []
  | '\n' :: rest => return rest
  | '#' :: rest => do
    let rest ← skipComment rest
    return skipOne '\n' (skipOne '\r' rest)
  | _ => throw .malformed

/-- The rest after spaces, ends of lines and comments; `comment` tells whether the text starts
inside a comment. -/
def skipBlank (comment : Bool) : Text → Except Fault Text
  | [] => .ok []
  | c :: rest =>
    if isLineEnd c then skipBlank false rest
    else if comment then if isControl c then .error .malformed else skipBlank true rest
    else if isSpace c then skipBlank false rest
    else if c == '#' then skipBlank true rest
    else .ok (c :: rest)

/-! ## Strings -/

/-- The character that a letter after a backslash stands for. -/
def escapes : List (Char × Char) :=
  [('b', '\x08'), ('t', '\t'), ('n', '\n'), ('f', '\x0c'), ('r', '\r'), ('e', '\x1b'), ('"', '"'),
    ('\\', '\\')]

/-- The number of hexadecimal digits of a code point that come after a letter after a backslash. -/
def codePointWidths : List (Char × Nat) :=
  [('x', 2), ('u', 4), ('U', 8)]

def hexValue? (c : Char) : Option Nat :=
  if Calendar.isDigit c then some (c.toNat - '0'.toNat)
  else if 'a' ≤ c && c ≤ 'f' then some (c.toNat - 'a'.toNat + 10)
  else if 'A' ≤ c && c ≤ 'F' then some (c.toNat - 'A'.toNat + 10)
  else none

/-- The character whose code point the first `width` hexadecimal digits of a text give. -/
def readCodePoint (width : Nat) (t : Text) : Except Fault (Char × Text) :=
  let digits := t.take width
  match digits.mapM hexValue? with
  | none => .error .malformed
  | some values =>
    let n := values.foldl (fun value d => 16 * value + d) 0
    if h : values.length = width ∧ n.isValidChar then
      .ok (Char.ofNatAux n h.2, t.drop width)
    else .error .malformed

/-- What stands for the text after a backslash. In a string of several lines a backslash at the end
of a line stands for nothing, together with all whitespace after it. -/
def readEscape (multiline : Bool) (t : Text) : Except Fault (Text × Text) :=
  match t with
  | [] => .error .malformed
  | c :: rest =>
    if multiline && (isSpace c || isLineEnd c) then
      let blank := fun c => isSpace c || isLineEnd c
      if (t.takeWhile blank).elem '\n' then .ok ([], t.dropWhile blank) else .error .malformed
    else
      match escapes.lookup c with
      | some d => .ok ([d], rest)
      | none =>
        match codePointWidths.lookup c with
        | some width => (readCodePoint width rest).map fun (d, rest) => ([d], rest)
        | none => .error .malformed

/-- How a string is written: its quotation mark, whether it may have several lines, and whether
backslashes mean something in it. -/
structure StringForm where
  mark : Char
  multiline : Bool

def StringForm.hasEscapes (form : StringForm) : Bool :=
  form.mark == '"'

/-- Whether a character may not stand in a string as it is. -/
def StringForm.forbids (form : StringForm) (c : Char) : Bool :=
  isControl c && !(form.multiline && isLineEnd c)

/-- The rest of a string up to its closing marks. Up to five marks may stand at the end of a string
of several lines, the first two belonging to it. -/
def readStringBody (form : StringForm) : Nat → Text → Except Fault (Text × Text)
  | 0, _ => .error .malformed
  | _, [] => .error .malformed
  | fuel + 1, c :: rest =>
    if form.forbids c then .error .malformed
    else if c == form.mark then
      if !form.multiline then .ok ([], rest)
      else
        let marks := (c :: rest).takeWhile (· == c)
        let rest := (c :: rest).dropWhile (· == c)
        if marks.length < 3 then
          (readStringBody form fuel rest).map fun (t, rest) => (marks ++ t, rest)
        else if marks.length ≥ 6 then .error .malformed
        else .ok (marks.drop 3, rest)
    else if c == '\\' && form.hasEscapes then
      match readEscape form.multiline rest with
      | .error fault => .error fault
      | .ok (piece, rest) =>
        (readStringBody form fuel rest).map fun (t, rest) => (piece ++ t, rest)
    else (readStringBody form fuel rest).map fun (t, rest) => (c :: t, rest)

/-- A string after its first quotation mark, and whether it may have several lines. -/
def readString (mark : Char) (t : Text) : Except Fault ((Text × Bool) × Text) :=
  let body (multiline : Bool) (t : Text) : Except Fault ((Text × Bool) × Text) :=
    (readStringBody ⟨mark, multiline⟩ (t.length + 1) t).map fun (s, rest) => ((s, multiline), rest)
  match t with
  | a :: b :: rest =>
    if a == mark && b == mark then
      match rest with
      | '\r' :: '\n' :: rest => body true rest
      | rest => body true (skipOne '\n' rest)
    else if a == mark then .ok (([], false), b :: rest)
    else body false (a :: b :: rest)
  | [a] => if a == mark then .ok (([], false), []) else .error .malformed
  | [] => .error .malformed

/-! ## Keys -/

/-- A character of a key without quotation marks. -/
def isKeyChar (c : Char) : Bool :=
  c.isAlphanum || c == '-' || c == '_'

/-- One name of a key, and the rest after the spaces that follow it. -/
def readName (t : Text) : Except Fault (Text × Text) :=
  match skipSpaces t with
  | [] => .error .malformed
  | c :: rest =>
    if c == '"' || c == '\'' then
      match readString c rest with
      | .error fault => .error fault
      | .ok ((_, true), _) => .error .malformed
      | .ok ((name, false), rest) => .ok (name, skipSpaces rest)
    else
      let run := (c :: rest).takeWhile fun c => isKeyChar c || isSpace c
      let name := Text.strip run
      if name.isEmpty || name.any isSpace then .error .malformed
      else .ok (name, (c :: rest).dropWhile fun c => isKeyChar c || isSpace c)

/-- The names of a key with points between them. -/
def readNames : Nat → Text → Except Fault (List Text × Text)
  | 0, _ => .error .malformed
  | fuel + 1, t =>
    match readName t with
    | .error fault => .error fault
    | .ok (name, '.' :: rest) =>
      (readNames fuel rest).map fun (names, rest) => (name :: names, rest)
    | .ok (name, rest) => .ok ([name], rest)

/-- How deep values may stand inside each other, and how many names a key may have. -/
def nestingLimit : Nat := 100

/-- A key: one name, or several with points between them. -/
def readKey (t : Text) : Except Fault (List Text × Text) := do
  let (names, rest) ← readNames (t.length + 1) t
  if nestingLimit < names.length then throw .malformed
  return (names, rest)

/-- The rest after a single equals sign and the spaces around it. -/
def skipEquals : Text → Except Fault Text
  | '=' :: rest =>
    match skipSpaces rest with
    | '=' :: _ => .error .malformed
    | rest => .ok rest
  | _ => .error .malformed

/-! ## Plain values -/

/-- Whether a character ends a number or a calendar value. -/
def endsPiece (c : Char) : Bool :=
  isSpace c || isLineEnd c || c == '#' || c == ',' || c == ']' || c == '\x7d'

/-- The moment that a written date and what follows it after a space give, or the date itself if
nothing follows. -/
def readDate (date : Calendar.Date) (written t : Text) : Except Fault (Value × Text) :=
  let stops (c : Char) : Bool := endsPiece c && c != ' '
  let time := Text.stripRight (t.takeWhile fun c => !stops c)
  let rest := t.dropWhile fun c => !stops c
  if time.isEmpty then .ok (.calendar (.date date), rest)
  else
    match (Calendar.shape? (written ++ time)).bind Calendar.Shape.value? with
    | some (.moment date time zone) => .ok (.calendar (.moment date time zone), rest)
    | _ => .error .malformed

/-- A number at the start of a text. -/
def readNumber (t : Text) : Except Fault (Value × Text) :=
  match Number.read (t.takeWhile fun c => !endsPiece c) with
  | some v => .ok (v, t.dropWhile fun c => !endsPiece c)
  | none => .error .malformed

/-- A number or a calendar value that starts with a digit. -/
def readDigits (t : Text) : Except Fault (Value × Text) :=
  let piece := t.takeWhile fun c => !endsPiece c
  let rest := t.dropWhile fun c => !endsPiece c
  match Calendar.shape? piece with
  | none => readNumber t
  | some shape =>
    match shape.value? with
    | none => .error .malformed
    | some (.date date) => readDate date piece rest
    | some c => .ok (.calendar c, rest)

/-- Whether a text starts with a name for a value that is no number, and nothing more. -/
def startsUnsigned (t : Text) : Bool :=
  let piece := (t.take 4).takeWhile fun c => !endsPiece c
  piece == "inf".toList || piece == "nan".toList

/-- A word at the start of a text that stands for a truth value. -/
def readWord (word : Text) (b : Bool) (t : Text) : Except Fault (Value × Text) :=
  if Text.startsWith word t then .ok (.boolean b, t.drop word.length) else .error .malformed

/-- A value other than a list or a table. -/
def readScalar (t : Text) : Except Fault (Value × Text) :=
  match t with
  | [] => .error .malformed
  | c :: rest =>
    if c == '"' || c == '\'' then
      (readString c rest).map fun ((s, _), rest) => (.text s, rest)
    else if c == 't' then readWord "true".toList true t
    else if c == 'f' then readWord "false".toList false t
    else if c == '+' || c == '-' || startsUnsigned t then readNumber t
    else if Calendar.isDigit c then readDigits t
    else .error .malformed

end LinePipe.Toml
