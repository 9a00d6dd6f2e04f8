import LinePipe.CommandLine.HelpPage
import LinePipe.Console.Colour
import LinePipe.Settings.Newline

/-!
# The commands

What can be written on the command line: options of the program itself, then a command with options
and operands of its own.

## Main definitions

- `CommandName`: the commands
- `programSpec`, `CommandName.spec`: what there is to tell about them
- `programHelp`, `CommandName.helpText`: their help pages
-/

namespace LinePipe.CommandLine

def programName : Text := "textshell".toList

def programVersion : Text := "0.1.0".toList

/-- The option that asks for help, which every command has. -/
def helpOption : OptionSpec where
  name := .help
  spellings := ["-h".toList, "--help".toList]
  purpose := "Show this message and exit.".toList

/-- The names of a choice as help texts show them. -/
def choicePlaceholder (names : List Text) : Text :=
  ['['] ++ Text.joinWith ['|'] names ++ [']']

/-! ## The program -/

def programOptions : List OptionSpec :=
  [{ name := .quiet
     spellings := ["-q".toList, "--quiet".toList]
     purpose := "Suppress informational output.".toList },
   { name := .verbose
     spellings := ["-v".toList, "--verbose".toList]
     purpose := "Increase verbosity. Specify up to twice for more detail.".toList },
   { name := .noColour
     spellings := ["--no-color".toList]
     purpose := "Disable color output (equivalent to --color=never).".toList },
   { name := .colour
     spellings := ["--color".toList]
     placeholder := some (choicePlaceholder (ColourMode.all.map ColourMode.name))
     purpose := "Color output: auto (default), always, or never.".toList },
   { name := .noConfig
     spellings := ["--no-config".toList]
     purpose := "Do not discover textshell.toml / pyproject.toml files.".toList },
   { name := .config
     spellings := ["--config".toList]
     placeholder := some "FILE".toList
     purpose := "Read settings from this TOML file (merged after discovered files).".toList },
   helpOption]

def programSpec : CommandSpec where
  path := programName
  synopsis := "[OPTIONS] [COMMAND] [ARGS]...".toList
  purpose := "TextShell: transform text lines with pipelines such as 'sort desc | uniq'.".toList
  options := programOptions

/-! ## Its commands -/

inductive ReportFormat where
  /-- For a reader at a terminal. -/
  | terminal
  | markdown
  | json
  deriving Repr, DecidableEq

namespace ReportFormat

def all : List ReportFormat := [terminal, markdown, json]

def name : ReportFormat → Text
  | terminal => "default".toList
  | markdown => "markdown".toList
  | json => "json".toList

def ofName? (t : Text) : Option ReportFormat :=
  all.find? fun format => format.name == t

end ReportFormat

/-- The commands, in the order of their names. -/
inductive CommandName where
  | check
  | commands
  | help
  | run
  | version
  deriving Repr, DecidableEq

/-- The option that chooses the format of a report. -/
def formatOption : OptionSpec where
  name := .format
  spellings := ["--format".toList]
  placeholder := some (choicePlaceholder (ReportFormat.all.map ReportFormat.name))
  purpose := "Output format (default, markdown, json).".toList

/-- The options of the command that applies a pipeline. -/
def runOptions : List OptionSpec :=
  [{ name := .lines
     spellings := ["--lines".toList]
     placeholder := some "TEXT".toList
     purpose :=
      ("Only transform these lines: START:END, 1-based and inclusive " ++
        "(e.g. 3:10, 5:, :8).").toList },
   { name := .inPlace
     spellings := ["-i".toList, "--in-place".toList]
     purpose := "Write the result back to FILE instead of STDOUT.".toList },
   { name := .newline
     spellings := ["--newline".toList]
     placeholder := some (choicePlaceholder (NewlineMode.all.map NewlineMode.name))
     purpose := "Line break used in the output (default: auto, same as input).".toList },
   { name := .numeric
     spellings := ["--numeric".toList]
     opposites := ["--no-numeric".toList]
     purpose := "Compare digit runs by numeric value in 'sort' (default: numeric).".toList },
   { name := .locale
     spellings := ["--locale".toList]
     placeholder := some "TEXT".toList
     purpose := "Collation locale for 'sort' (e.g. en_US.UTF-8).".toList },
   helpOption]

namespace CommandName

def all : List CommandName := [check, commands, help, run, version]

def word : CommandName → Text
  | check => "check".toList
  | commands => "commands".toList
  | help => "help".toList
  | run => "run".toList
  | version => "version".toList

def ofWord? (t : Text) : Option CommandName :=
  all.find? fun name => name.word == t

/-- The names of the operands of a command, in order. -/
def operands : CommandName → List Text
  | check => ["PIPELINE".toList]
  | run => ["PIPELINE".toList, "[FILE]".toList]
  | _ => []

def purpose : CommandName → Text
  | check => "Validate PIPELINE without running it.".toList
  | commands => "List the commands available in pipelines.".toList
  | help => "Show the pipeline language help (same text as the 'help' pipeline command).".toList
  | run => "Apply PIPELINE to the lines of FILE (or STDIN) and print the result.".toList
  | version => "Show the current version of TextShell.".toList

def options : CommandName → List OptionSpec
  | help => [helpOption]
  | run => runOptions
  | _ => [formatOption, helpOption]

def spec (name : CommandName) : CommandSpec where
  path := programName ++ [' '] ++ name.word
  synopsis := Text.unwords ("[OPTIONS]".toList :: name.operands)
  purpose := name.purpose
  options := name.options

def helpText (name : CommandName) : Text :=
  helpPage name.spec

end CommandName

def programHelp : Text :=
  helpPage programSpec (CommandName.all.map fun name => (name.word, name.purpose))

end LinePipe.CommandLine
