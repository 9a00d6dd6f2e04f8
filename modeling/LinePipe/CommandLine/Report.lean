import LinePipe.CommandLine.Apply
import LinePipe.Console.Basic
import LinePipe.Json
import LinePipe.Markdown.Table

/-!
# Reports

The commands that only tell something: whether a pipeline is valid, which commands there are for
pipelines, the help document and the version.

## Main definitions

- `Report`: what is printed, and the status
- `Report.check`, `Report.commands`, `Report.help`, `Report.version`: the reports
-/

namespace LinePipe.CommandLine

/-- What is printed, and the status with which the program ends. -/
structure Report where
  status : ExitStatus := .success
  out : Text := []
  err : Text := []
  deriving Repr, DecidableEq

namespace Report

def bold : Style := { bold := some true }

/-! ## Validity of a pipeline -/

/-- The validity of a pipeline text as a JSON document. -/
def validity (pipeline : Text) (error : Option ParseError) : Json :=
  .object
    [("pipeline".toList, .text pipeline),
     ("valid".toList, .boolean error.isNone),
     ("error".toList, (error.map fun e => Json.text e.message).getD .null),
     ("kind".toList, (error.map fun e => Json.text e.kind).getD .null)]

/-- The status that tells whether a pipeline is valid. -/
def validityStatus (error : Option ParseError) : ExitStatus :=
  if error.isNone then .success else .failure

/-- The report on the validity of a pipeline text. A valid pipeline is not mentioned to a user who
asked for less output. -/
def ofValidity (console : Console) (verbosity : Int) (format : ReportFormat) (pipeline : Text)
    (error : Option ParseError) : Report :=
  let status := validityStatus error
  match format, error with
  | .json, _ => { status, out := console.written (validity pipeline error).compact }
  | _, some e => { status, err := console.warning ("warning: ".toList ++ e.message) }
  | _, none =>
    if verbosity ≥ 0 then
      { status, out := console.written (console.styled { colour := some .green } "OK".toList) }
    else { status }

def check (console : Console) (registry : Registry) (verbosity : Int) (format : ReportFormat)
    (pipeline : Text) : Work Report := do
  let error ← (Pipeline.check pipeline registry).mapError Failure.ofBuilding
  return ofValidity console verbosity format pipeline error

/-! ## Commands of pipelines -/

def catalogJson (catalog : List CommandInfo) : Json :=
  .object
    [("commands".toList, .list <| catalog.map fun info => .object
      [("name".toList, .text info.name),
       ("summary".toList, .text info.summary),
       ("usage".toList, .list (info.usage.map .text))])]

def catalogTable (catalog : List CommandInfo) : Except MarkdownTable.Failure Text :=
  MarkdownTable.render ["Command".toList, "Description".toList, "Usage".toList] <|
    catalog.map fun info =>
      [HelpDocument.code info.name, info.summary,
       Text.joinWith [',', ' '] (info.usage.map HelpDocument.code)]

/-- The commands as a Markdown document. Each row of the table has a cell for each header, so the
table can be made. -/
def catalogMarkdown (catalog : List CommandInfo) : Text :=
  "# Pipeline commands\n\n".toList ++ "TextShell version **".toList ++ programVersion ++
    "** supports these commands:\n\n".toList ++ ((catalogTable catalog).toOption.getD [])

/-- A command in a list for a terminal: its name in a column of the given width and its summary, and
below them its forms if more output is wanted. -/
def catalogEntry (console : Console) (verbosity : Int) (width : Nat) (info : CommandInfo) : Text :=
  console.written (console.styled bold (Text.padRight width info.name) ++ [' ', ' '] ++
      info.summary) ++
    (if verbosity > 0 then
      info.usage.flatMap fun form =>
        console.written (List.replicate (width + 4) ' ' ++ form)
    else [])

/-- The commands in a list for a terminal. -/
def catalogList (console : Console) (verbosity : Int) (catalog : List CommandInfo) : Text :=
  let width := (catalog.map fun info => info.name.length).foldl max 0
  catalog.flatMap (catalogEntry console verbosity width)

def commands (console : Console) (verbosity : Int) (format : ReportFormat)
    (catalog : List CommandInfo) : Report where
  out :=
    match format with
    | .json => console.written (catalogJson catalog).indented
    | .markdown => console.written (catalogMarkdown catalog) false
    | .terminal => catalogList console verbosity catalog

/-! ## Help and version -/

def help (console : Console) (catalog : List CommandInfo) : Report where
  out := console.written (HelpDocument.render catalog) false

def version (console : Console) (verbosity : Int) (format : ReportFormat) : Report where
  out :=
    match format with
    | .json =>
      console.written (Json.object [("version".toList, .text programVersion)]).compact
    | .markdown =>
      console.written "# TextShell Version\n".toList ++
        console.written ("**TextShell version: ".toList ++ programVersion ++ "**".toList)
    | .terminal =>
      let number := console.styled bold programVersion
      if verbosity > 0 then
        console.written
            (console.styled { bold with underline := some true } "TextShell version:\n".toList) ++
          console.written (List.replicate 4 ' ' ++ number)
      else console.written number

end Report

end LinePipe.CommandLine
