import LinePipe.Command.Registry
import LinePipe.Pipeline.Token

/-!
# The help document

A Markdown document that explains the pipeline language and lists commands.

## Main definitions

- `HelpDocument.render`: the document for a list of commands
-/

namespace LinePipe.HelpDocument

def code (t : Text) : Text :=
  "`".toList ++ t ++ "`".toList

/-- The lines that come before the list of commands. -/
def preamble : List Text :=
  ["# TextShell".toList,
   [],
   "Chain commands with a pipe (".toList ++ code [pipeChar] ++
     "); each command receives the".toList,
   "lines produced by the previous one.".toList,
   [],
   "```".toList,
   "sort desc ".toList ++ [pipeChar] ++ " uniq".toList,
   "```".toList,
   [],
   "# Available commands".toList,
   []]

/-- The lines for one command: its name and summary, then its forms. -/
def entry (info : CommandInfo) : List Text :=
  ("- ".toList ++ code info.name ++ [':', ' '] ++ info.summary) ::
    info.usage.map fun form => "  - ".toList ++ code form

/-- The document for a list of commands, in their order. -/
def render (commands : List CommandInfo) : Text :=
  Text.joinWith ['\n'] (preamble ++ commands.flatMap entry ++ [[]])

end LinePipe.HelpDocument
