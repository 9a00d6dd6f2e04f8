import LinePipe.Text.Basic

/-!
# Severity of log records

Severities are integers; seven of them have names. A record counts as at least as severe as another
if its number is not smaller.

## Main definitions

- `Log.Level`: severities, with the named ones as constants
- `Log.Level.name`: the name shown for a severity
-/

namespace LinePipe.Log

abbrev Level := Int

namespace Level

def unset : Level := 0

/-- The steps of building and running a pipeline. -/
def trace : Level := 5

def debug : Level := 10

def info : Level := 20

/-- Something is odd but does not stop the work. -/
def warning : Level := 30

def error : Level := 40

def critical : Level := 50

def named : List (Level × Text) :=
  [(unset, "NOTSET".toList), (trace, "TRACE".toList), (debug, "DEBUG".toList),
   (info, "INFO".toList), (warning, "WARNING".toList), (error, "ERROR".toList),
   (critical, "CRITICAL".toList)]

def name (level : Level) : Text :=
  match named.lookup level with
  | some name => name
  | none => "Level ".toList ++ Text.ofInt level

end Level

end LinePipe.Log
