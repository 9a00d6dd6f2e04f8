import LinePipe.Text.Quoted

/-!
# JSON documents

The documents that reports are written as. Only ASCII characters are written: every other character
is given by its UTF-16 units.

## Main definitions

- `Json`: a document
- `Json.encodeText`: a text between quotation marks
- `Json.compact`: a document on one line
- `Json.indented`: a document with a line for each entry
-/

namespace LinePipe

/-- A JSON document, as far as reports need it. -/
inductive Json where
  | null
  | boolean (b : Bool)
  | text (t : Text)
  | list (items : List Json)
  | object (fields : List (Text × Json))
  deriving Repr

namespace Json

def unitEscape (n : Nat) : Text :=
  ['\\', 'u'] ++ Text.hexDigits 4 n

/-- The escapes of a character: of one unit, or of two for a character beyond the first plane. -/
def charEscape (c : Char) : Text :=
  let n := c.toNat
  if n < 0x10000 then unitEscape n
  else
    unitEscape (0xD800 + (n - 0x10000) / 0x400) ++ unitEscape (0xDC00 + (n - 0x10000) % 0x400)

/-- A character as it stands between quotation marks. -/
def encodeChar (c : Char) : Text :=
  if c == '"' || c == '\\' then ['\\', c]
  else if c == '\n' then ['\\', 'n']
  else if c == '\r' then ['\\', 'r']
  else if c == '\t' then ['\\', 't']
  else if c == '\x0c' then ['\\', 'f']
  else if c == '\x08' then ['\\', 'b']
  else if ' ' ≤ c && c ≤ '~' then [c]
  else charEscape c

def encodeText (t : Text) : Text :=
  ['"'] ++ t.flatMap encodeChar ++ ['"']

def encodeAtom : Json → Text
  | boolean true => "true".toList
  | boolean false => "false".toList
  | text t => encodeText t
  | _ => "null".toList

mutual

def compact : Json → Text
  | list items => ['['] ++ Text.joinWith [',', ' '] (compactItems items) ++ [']']
  | object fields => ['\x7b'] ++ Text.joinWith [',', ' '] (compactFields fields) ++ ['\x7d']
  | atom => encodeAtom atom

/-- The items of a list, each on one line. -/
def compactItems : List Json → List Text
  | [] => []
  | item :: rest => compact item :: compactItems rest

/-- The fields of an object, each on one line. -/
def compactFields : List (Text × Json) → List Text
  | [] => []
  | (key, value) :: rest => (encodeText key ++ [':', ' '] ++ compact value) :: compactFields rest

end

/-- A line feed and the indentation of a depth. -/
def lineStart (depth : Nat) : Text :=
  '\n' :: List.replicate (2 * depth) ' '

/-- Parts on lines of their own between brackets, which stand at the given depth. -/
def bracketed (opening closing : Char) (depth : Nat) (parts : List Text) : Text :=
  if parts.isEmpty then [opening, closing]
  else
    [opening] ++ lineStart (depth + 1) ++ Text.joinWith (',' :: lineStart (depth + 1)) parts ++
      lineStart depth ++ [closing]

mutual

/-- A document with a line for each entry, its last line at the given depth. -/
def indentedAt (depth : Nat) : Json → Text
  | list items => bracketed '[' ']' depth (indentedItems (depth + 1) items)
  | object fields => bracketed '\x7b' '\x7d' depth (indentedFields (depth + 1) fields)
  | atom => encodeAtom atom

/-- The items of a list at the given depth. -/
def indentedItems (depth : Nat) : List Json → List Text
  | [] => []
  | item :: rest => indentedAt depth item :: indentedItems depth rest

/-- The fields of an object at the given depth. -/
def indentedFields (depth : Nat) : List (Text × Json) → List Text
  | [] => []
  | (key, value) :: rest =>
    (encodeText key ++ [':', ' '] ++ indentedAt depth value) :: indentedFields depth rest

end

/-- A document with a line for each entry. -/
def indented (j : Json) : Text :=
  indentedAt 0 j

end Json

end LinePipe
