import LinePipe.Text.Blank
import LinePipe.Text.Case
import LinePipe.Text.Quoted

/-!
# Line break policy

Which line break is written when lines are joined into a text again.

## Main definitions

- `NewlineMode`: the policies
- `NewlineMode.ofName?`: the policy of a name
-/

namespace LinePipe

inductive NewlineMode where
  /-- The break found in the input. -/
  | auto
  | lf
  | crlf
  deriving Repr, DecidableEq

namespace NewlineMode

def all : List NewlineMode := [auto, lf, crlf]

def name : NewlineMode → Text
  | auto => "auto".toList
  | lf => "lf".toList
  | crlf => "crlf".toList

/-- The policy of a name, in any case and with whitespace around it. -/
def ofName? (value : Text) : Option NewlineMode :=
  all.find? fun mode => mode.name == Text.lower (Text.strip value)

def invalidMessage (value : Text) : Text :=
  "Invalid newline mode ".toList ++ Text.quoted value ++ " (expected: ".toList ++
    Text.joinWith [',', ' '] (all.map name) ++ [')']

end NewlineMode

end LinePipe
