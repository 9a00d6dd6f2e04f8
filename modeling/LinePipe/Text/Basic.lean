/-!
# Text

A text is a list of characters (Unicode scalar values). Lines, words, messages and whole documents
are all texts, so the rules of this library are plain list functions.

## Main definitions

- `Text.splitWhere`: the pieces between the separators, one more than there are separators
- `Text.joinWith`: pieces put together with a separator text between them
- `Text.ofNat`, `Text.ofInt`: decimal numerals
- `Text.padRight`: left-aligned in a field of a given width
-/

namespace LinePipe

/-- A text: its characters from first to last. -/
abbrev Text := List Char

namespace Text

/-- The pieces of a text between the characters that satisfy `sep`. There is always one piece more
than there are separators, so the empty text has the one piece `[]`. -/
def splitWhere (sep : Char → Bool) : Text → List Text
  | [] => [[]]
  | c :: rest =>
    if sep c then [] :: splitWhere sep rest
    else
      match splitWhere sep rest with
      | [] => [[c]]
      | piece :: pieces => (c :: piece) :: pieces

/-- The pieces of a text between the occurrences of one character. -/
def splitOn (c : Char) (t : Text) : List Text :=
  splitWhere (· == c) t

def joinWith (sep : Text) : List Text → Text
  | [] => []
  | [t] => t
  | t :: u :: rest => t ++ sep ++ joinWith sep (u :: rest)

/-- Texts put together with one space between neighbours. -/
def unwords (ts : List Text) : Text :=
  joinWith [' '] ts

/-- The decimal numeral of a natural number, without leading zeros. -/
def ofNat (n : Nat) : Text :=
  Nat.toDigits 10 n

/-- The decimal numeral of an integer; a negative one starts with a minus sign. -/
def ofInt : Int → Text
  | .ofNat n => ofNat n
  | .negSucc n => '-' :: ofNat (n + 1)

/-- The text followed by as many spaces as it takes to reach `width` characters. -/
def padRight (width : Nat) (t : Text) : Text :=
  t ++ List.replicate (width - t.length) ' '

/-- As many spaces as it takes to reach `width` characters, followed by the text. -/
def padLeft (width : Nat) (t : Text) : Text :=
  List.replicate (width - t.length) ' ' ++ t

def startsWith (part t : Text) : Bool :=
  part.isPrefixOf t

/-- The text without its first `skip` characters and with `new` for each occurrence of `old` after
them, occurrences being found from left to right. -/
def replaceFrom (old new : Text) : Nat → Text → Text
  | _, [] => []
  | skip + 1, _ :: rest => replaceFrom old new skip rest
  | 0, c :: rest =>
    if old.isPrefixOf (c :: rest) then new ++ replaceFrom old new (old.length - 1) rest
    else c :: replaceFrom old new 0 rest

/-- The text with `new` for each occurrence of `old`, which must not be empty. -/
def replace (old new t : Text) : Text :=
  replaceFrom old new 0 t

def includes (part : Text) : Text → Bool
  | [] => part.isEmpty
  | c :: rest => part.isPrefixOf (c :: rest) || includes part rest

end Text

end LinePipe
