import LinePipe.CommandLine.Scan

/-!
# Help pages

How a command is called, what it does and which options and subcommands it has, on a page of fixed
width. Entries stand in two columns; the second is filled word by word.

## Main definitions

- `CommandSpec`: what there is to tell about a command
- `usageLine`: how the command is called
- `helpPage`: the page
-/

namespace LinePipe.CommandLine

/-- What there is to tell about a command of the command line. -/
structure CommandSpec where
  /-- The words that call it. -/
  path : Text
  /-- What may follow these words. -/
  synopsis : Text
  /-- What it does, in one sentence. -/
  purpose : Text
  options : List OptionSpec
  deriving Repr, DecidableEq

def pageWidth : Nat := 80

/-- The greatest width of the first column that the second is moved aside for. -/
def columnLimit : Nat := 30

def leastWidth : Nat := 10

/-- Words put on lines of a width, as many on each as fit, after a line already begun. -/
def fillFrom (width : Nat) (line : Text) : List Text → List Text
  | [] => [line]
  | word :: rest =>
    if line.length + 1 + word.length ≤ width then fillFrom width (line ++ [' '] ++ word) rest
    else line :: fillFrom width word rest

/-- A text put on lines of a width. -/
def fill (width : Nat) (t : Text) : List Text :=
  match Text.splitOn ' ' t with
  | [] => []
  | word :: rest => fillFrom width word rest

def margin : Text := [' ', ' ']

/-- The lines of an entry whose second column starts at `column` behind the margin. A first part
that leaves no gap before the second column has a line of its own. -/
def entryLines (column : Nat) (entry : Text × Text) : List Text :=
  let (label, description) := entry
  let body := fill (max (pageWidth - column - 2) leastWidth) description
  let aside := margin ++ List.replicate column ' '
  if label.length + 2 ≤ column then
    (margin ++ Text.padRight column label ++ body.headD []) :: body.tail.map (aside ++ ·)
  else (margin ++ label) :: body.map (aside ++ ·)

def entryTable (entries : List (Text × Text)) : List Text :=
  let widest := (entries.map fun entry => entry.1.length).foldl max 0
  entries.flatMap (entryLines (min widest columnLimit + 2))

def optionLabel (spec : OptionSpec) : Text :=
  let spellings := Text.joinWith [',', ' '] spec.spellings ++
    (spec.placeholder.map (' ' :: ·)).getD []
  if spec.opposites.isEmpty then spellings
  else spellings ++ [' ', '/', ' '] ++ Text.joinWith [',', ' '] spec.opposites

/-- The words of a text that come before the first that does not fit into a width, where dots follow
them. -/
def shortenFrom (width : Nat) (line : Text) : List Text → Text
  | [] => line
  | word :: rest =>
    if line.length + 1 + word.length + 3 ≤ width then
      shortenFrom width (line ++ [' '] ++ word) rest
    else line

/-- A text that fits into a width, cut behind a word if need be, with three dots to show it. -/
def shorten (width : Nat) (t : Text) : Text :=
  if t.length ≤ width then t
  else
    match Text.splitOn ' ' t with
    | [] => []
    | word :: rest => shortenFrom width word rest ++ ['.', '.', '.']

def usageLine (spec : CommandSpec) : Text :=
  "Usage: ".toList ++ spec.path ++ [' '] ++ spec.synopsis

/-- The entries for subcommands, each cut to one line. -/
def commandEntries (commands : List (Text × Text)) : List (Text × Text) :=
  let widest := (commands.map fun entry => entry.1.length).foldl max 0
  commands.map fun (name, purpose) => (name, shorten (pageWidth - 6 - widest) purpose)

/-- A heading with entries below it, after an empty line. -/
def sectionLines (heading : Text) (entries : List (Text × Text)) : List Text :=
  if entries.isEmpty then [] else [[], heading] ++ entryTable entries

/-- The help page of a command with the given subcommands. -/
def helpPage (spec : CommandSpec) (commands : List (Text × Text) := []) : Text :=
  Text.joinWith ['\n'] <|
    [usageLine spec, []] ++ (fill (pageWidth - 2) spec.purpose).map (margin ++ ·) ++
      sectionLines "Options:".toList (spec.options.map fun o => (optionLabel o, o.purpose)) ++
      sectionLines "Commands:".toList (commandEntries commands)

end LinePipe.CommandLine
