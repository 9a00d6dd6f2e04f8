import LinePipe.Text.Basic
import LinePipe.Text.CaseTable

/-!
# Upper case, lower case and case folding

Case conversion with the full Unicode mappings, where one character may become several. The only
mapping that looks at its surroundings is that of the capital sigma, which lowers to a final sigma
where it ends a word.

## Main definitions

- `Text.lower`, `Text.upper`: the text in one case
- `Text.swapCase`: upper case letters lowered and lower case letters raised
- `Text.foldCase`: the form in which texts that differ only in case are equal
-/

namespace LinePipe.Text

/-- A character in lower case, its surroundings disregarded. -/
def lowerChar (c : Char) : List Char :=
  (lowerMap.image? c).getD [c]

def upperChar (c : Char) : List Char :=
  (upperMap.image? c).getD [c]

/-- A character in the form used for comparison without regard to case. -/
def foldChar (c : Char) : List Char :=
  (foldMap.image? c).getD (lowerChar c)

def capitalSigma : Char := 'Σ'

/-- Whether a cased letter comes first once case-ignorable characters are passed over. -/
def meetsCased (t : Text) : Bool :=
  match t.dropWhile caseIgnorables.holds with
  | [] => false
  | c :: _ => casedLetters.holds c

/-- The small sigma for a capital sigma between `before`, read backwards, and `after`: the final
form if a cased letter precedes it and none follows. -/
def smallSigma (before after : Text) : Char :=
  if meetsCased before && !meetsCased after then 'ς' else 'σ'

/-- The text with every character replaced, a capital sigma by the small one of its place and all
else by `f`. `before` is the part already passed, read backwards. -/
def mapWithSigma (f : Char → List Char) (before : Text) : Text → Text
  | [] => []
  | c :: after =>
    (if c == capitalSigma then [smallSigma before after] else f c) ++
      mapWithSigma f (c :: before) after

def lower (t : Text) : Text :=
  mapWithSigma lowerChar [] t

def upper (t : Text) : Text :=
  t.flatMap upperChar

def foldCase (t : Text) : Text :=
  t.flatMap foldChar

/-- A character in the other case. A titlecase letter, which both mappings change, has no other
case and stays. -/
def swapChar (c : Char) : List Char :=
  if lowerChar c == [c] then upperChar c
  else if upperChar c == [c] then lowerChar c
  else [c]

def swapCase (t : Text) : Text :=
  mapWithSigma swapChar [] t

end LinePipe.Text
