import LinePipe.Text.Quoted

/-!
# Scanning arguments

Arguments are options, values of options, or operands. An option starts with a hyphen; a long one
starts with two and may be joined to its value by an equals sign, and short ones may stand together
behind one hyphen. Two hyphens alone make operands of all arguments after them.

## Main definitions

- `OptionSpec`: how an option is written and what it is for
- `OptionUse`: an option found among the arguments
- `scan`: the options and operands among arguments
-/

namespace LinePipe.CommandLine

inductive OptionName where
  | quiet | verbose | noColour | colour | noConfig | config
  | lines | inPlace | newline | numeric | locale | format | help
  deriving Repr, DecidableEq

/-- How an option is written and what it is for. -/
structure OptionSpec where
  name : OptionName
  /-- The ways to write it, each with its hyphens. -/
  spellings : List Text
  /-- The ways to write its opposite. -/
  opposites : List Text := []
  /-- What stands for its value in help texts; `none` if it takes no value. -/
  placeholder : Option Text := none
  /-- What it does, in a sentence or two. -/
  purpose : Text
  deriving Repr, DecidableEq

structure OptionUse where
  name : OptionName
  /-- Whether the option itself was written, and not its opposite. -/
  affirmed : Bool := true
  /-- The value, empty if the option takes none. -/
  value : Text := []
  deriving Repr, DecidableEq

inductive ScanError where
  | unknownOption (spelling : Text)
  /-- The option takes a value, but the arguments end. -/
  | missingValue (spelling : Text)
  /-- The option takes no value, but one is joined to it. -/
  | unwantedValue (spelling : Text)
  deriving Repr, DecidableEq

def ScanError.message : ScanError → Text
  | .unknownOption spelling => "No such option ".toList ++ Text.quoted spelling ++ ['.']
  | .missingValue spelling =>
    "Option ".toList ++ Text.quoted spelling ++ " requires an argument.".toList
  | .unwantedValue spelling =>
    "Option ".toList ++ Text.quoted spelling ++ " does not take a value.".toList

/-- An option and the spelling that it was found by. -/
structure Match where
  spec : OptionSpec
  affirmed : Bool
  spelling : Text
  deriving Repr, DecidableEq

namespace Match

def takesValue (m : Match) : Bool :=
  m.spec.placeholder.isSome

/-- The use of the option with a value. -/
def use (m : Match) (value : Text) : OptionUse where
  name := m.spec.name
  affirmed := m.affirmed
  value := value

end Match

def findOption (specs : List OptionSpec) (spelling : Text) : Option Match :=
  specs.findSome? fun spec =>
    if spec.spellings.elem spelling then some ⟨spec, true, spelling⟩
    else if spec.opposites.elem spelling then some ⟨spec, false, spelling⟩
    else none

/-- The options found in one argument, and the one among them whose value is the next argument. -/
structure ArgumentUses where
  uses : List OptionUse := []
  awaiting : Option Match := none
  deriving Repr, DecidableEq

/-- The options in an argument with two hyphens. -/
def readLong (specs : List OptionSpec) (argument : Text) : Except ScanError ArgumentUses :=
  let spelling := argument.takeWhile (· != '=')
  match findOption specs spelling with
  | none => .error (.unknownOption spelling)
  | some m =>
    match m.takesValue, argument.dropWhile (· != '=') with
    | true, [] => .ok { awaiting := some m }
    | true, _ :: value => .ok { uses := [m.use value] }
    | false, [] => .ok { uses := [m.use []] }
    | false, _ :: _ => .error (.unwantedValue spelling)

/-- The options in an argument with one hyphen, from the characters behind it. What follows an
option that takes a value is that value. -/
def readShort (specs : List OptionSpec) : Text → Except ScanError ArgumentUses
  | [] => .ok {}
  | c :: rest =>
    match findOption specs ['-', c] with
    | none => .error (.unknownOption ['-', c])
    | some m =>
      if m.takesValue then
        .ok (if rest.isEmpty then { awaiting := some m } else { uses := [m.use rest] })
      else (readShort specs rest).map fun found => { found with uses := m.use [] :: found.uses }

/-- The options in an argument that starts with a hyphen. -/
def readOption (specs : List OptionSpec) : Text → Except ScanError ArgumentUses
  | '-' :: '-' :: rest => readLong specs ('-' :: '-' :: rest)
  | argument => readShort specs argument.tail

/-- Two hyphens alone, after which there are only operands. -/
def operandMark : Text := ['-', '-']

/-- Whether an argument is an option. One hyphen alone is an operand. -/
def isOption (argument : Text) : Bool :=
  argument.head? == some '-' && argument.length > 1

structure Scan where
  uses : List OptionUse := []
  operands : List Text := []
  deriving Repr, DecidableEq

/-- The options and operands among arguments, the first of which is the value of the option that
awaits one. If options and operands are not mixed, the first operand ends the options. -/
def scanFrom (specs : List OptionSpec) (mixed : Bool) (awaiting : Option Match) :
    List Text → Except ScanError Scan
  | [] =>
    match awaiting with
    | none => .ok {}
    | some m => .error (.missingValue m.spelling)
  | argument :: rest =>
    match awaiting with
    | some m =>
      (scanFrom specs mixed none rest).map fun s => { s with uses := m.use argument :: s.uses }
    | none =>
      if argument == operandMark then .ok { operands := rest }
      else if isOption argument then
        match readOption specs argument with
        | .error e => .error e
        | .ok found =>
          (scanFrom specs mixed found.awaiting rest).map fun s =>
            { s with uses := found.uses ++ s.uses }
      else if mixed then
        (scanFrom specs mixed none rest).map fun s =>
          { s with operands := argument :: s.operands }
      else .ok { operands := argument :: rest }

def scan (specs : List OptionSpec) (mixed : Bool) (arguments : List Text) :
    Except ScanError Scan :=
  scanFrom specs mixed none arguments

namespace Scan

def has (s : Scan) (name : OptionName) : Bool :=
  s.uses.any fun use => use.name == name

def count (s : Scan) (name : OptionName) : Nat :=
  s.uses.countP fun use => use.name == name

/-- The last use of an option, which is the one that counts. -/
def last? (s : Scan) (name : OptionName) : Option OptionUse :=
  s.uses.reverse.find? fun use => use.name == name

def value? (s : Scan) (name : OptionName) : Option Text :=
  (s.last? name).map OptionUse.value

/-- The uses that count, in the order in which the options were first used. -/
def decisive (s : Scan) : List OptionUse :=
  ((s.uses.map OptionUse.name).eraseDups).filterMap s.last?

end Scan

end LinePipe.CommandLine
