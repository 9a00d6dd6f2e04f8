import LinePipe.Text.Blank

/-!
# Pipeline tokens

The surface of the pipeline language: stages separated by a pipe character, each a command name and
arguments separated by whitespace. Nothing is resolved here.

## Main definitions

- `StageToken`: one stage as written
- `StageToken.scan`: the stages of a text
-/

namespace LinePipe

def pipeChar : Char := '|'

/-- One stage as written. A stage without words has an empty name and no arguments. -/
structure StageToken where
  position : Nat
  name : Text
  arguments : List Text
  deriving Repr, DecidableEq

namespace StageToken

/-- The token for a segment between pipe characters. -/
def ofSegment (position : Nat) (segment : Text) : StageToken :=
  match Text.words segment with
  | [] => ⟨position, [], []⟩
  | name :: arguments => ⟨position, name, arguments⟩

/-- The tokens for segments, the first of which has the given position. -/
def ofSegments (position : Nat) : List Text → List StageToken
  | [] => []
  | segment :: rest => ofSegment position segment :: ofSegments (position + 1) rest

/-- The stages of a text: none if it is all whitespace, else one for each segment between pipe
characters, empty segments included. -/
def scan (text : Text) : List StageToken :=
  if Text.isAllBlank text then [] else ofSegments 1 (Text.splitOn pipeChar text)

end StageToken

end LinePipe
