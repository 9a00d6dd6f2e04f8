import LinePipe.CommandLine.Report

/-!
# The program

From the arguments to what is printed and what is left in the files.

## Main definitions

- `Completion`: what a run of the program leaves behind
- `Display`: how messages are shown
- `Invocation.run`: the program
-/

namespace LinePipe.CommandLine

inductive Ending where
  /-- With a status. -/
  | exited (status : Nat)
  /-- By breaking down, which its caller sees as the status of a failure. -/
  | brokeDown (breakdown : Breakdown)
  deriving Repr, DecidableEq

/-- The status that the caller of the program sees. -/
def Ending.status : Ending → Nat
  | exited status => status
  | brokeDown _ => ExitStatus.failure.number

/-- What a run of the program leaves behind. -/
structure Completion where
  ending : Ending
  /-- What was printed as result. -/
  out : Text := []
  /-- What was printed as message. -/
  err : Text := []
  files : Files
  deriving Repr, DecidableEq

structure Display where
  console : Console
  filter : Log.Filter
  verbosity : Int
  deriving Repr, DecidableEq

namespace Display

/-- How messages are shown before it is known how the user wants them. -/
def plain : Display := ⟨⟨false⟩, Log.Filter.setUp none none, 0⟩

/-- How messages are shown to a user with these preferences. -/
def prepare (i : Invocation) (p : Preferences) : Except Failure Display := do
  let verbosity ← (Verbosity.ofCounts p.verbose p.quiet).mapError fun conflict =>
    Failure.told (.verbosity conflict)
  let level ← match i.environment.logLevel with
    | none => pure none
    | some text => (Log.Level.parse text).mapError fun error => Failure.broken (.numeral error)
  return ⟨⟨p.colour.isOn none i.environment i.terminal⟩, Log.Filter.setUp level none, verbosity⟩

def event (d : Display) : Event → Text
  | .logged record => d.filter.shown record.level [] record.message
  | .displayed document => d.console.written document false

def events (d : Display) (es : List Event) : Text :=
  es.flatMap d.event

def failure (d : Display) (spec : CommandSpec) : Failure → Text
  | .usage error => d.console.written (error.report spec)
  | .told error => d.console.closing error.message
  | .broken _ => []

end Display

def Failure.ending : Failure → Ending
  | .usage _ => .exited usageErrorStatus
  | .told error => .exited error.status.number
  | .broken breakdown => .brokeDown breakdown

namespace Invocation

def printed (i : Invocation) (d : Display) (t : Text) : Completion where
  ending := .exited ExitStatus.success.number
  out := d.console.written t
  files := i.files

/-- A failure after some events. Nothing is printed as result, and the files are as they were. -/
def failed (i : Invocation) (d : Display) (spec : CommandSpec) (f : Failure)
    (es : List Event := []) : Completion where
  ending := f.ending
  err := d.events es ++ d.failure spec f
  files := i.files

def delivered (i : Invocation) (d : Display) (es : List Event) (delivery : Delivery) :
    Completion where
  ending := .exited ExitStatus.success.number
  out :=
    match delivery with
    | .printed result => d.console.written result false
    | _ => []
  err := d.events es
  files :=
    match delivery with
    | .saved files => files
    | _ => i.files

def reported (i : Invocation) (d : Display) (es : List Event) (report : Report) : Completion where
  ending := .exited report.status.number
  out := report.out
  err := d.events es ++ report.err
  files := i.files

/-- A computation done, and what it leaves behind. -/
def finish {α : Type} (i : Invocation) (d : Display) (spec : CommandSpec)
    (done : List Event → α → Completion) (work : Work α) : Completion :=
  match work.result with
  | .error f => i.failed d spec f work.events
  | .ok a => done work.events a

def perform (i : Invocation) (p : Preferences) (d : Display) (name : CommandName) :
    Request → Completion
  | .run r => i.finish d name.spec (i.delivered d) (r.apply i p)
  | .check pipeline format =>
    i.finish d name.spec (i.reported d)
      (Report.check d.console i.registry d.verbosity format pipeline)
  | .commands format =>
    i.reported d [] (Report.commands d.console d.verbosity format i.registry.catalog)
  | .help => i.reported d [] (Report.help d.console i.registry.catalog)
  | .version format => i.reported d [] (Report.version d.console d.verbosity format)

def call (i : Invocation) (p : Preferences) (name : CommandName) (arguments : List Text) :
    Completion :=
  match Display.prepare i p with
  | .error f => i.failed Display.plain name.spec f
  | .ok d =>
    match Request.read i.files name arguments with
    | .error f => i.failed d name.spec f
    | .ok .help => i.printed d name.helpText
    | .ok (.action request) => i.perform p d name request

/-- What the program tells when it is called without a command. -/
def greeting : Text :=
  "Hint: use 'textshell run PIPELINE [FILE]' to transform lines.\n\n".toList ++ programHelp

def greet (i : Invocation) (p : Preferences) : Completion :=
  match Display.prepare i p with
  | .error f => i.failed Display.plain programSpec f
  | .ok d => i.printed d greeting

/-- The program called with a word that is no command. The word and what follows it are read once
more as options of the program, so that options behind two hyphens are not lost on the user. -/
def refuse (i : Invocation) (word : Text) (arguments : List Text) : Completion :=
  match Preferences.read i.files (word :: arguments) with
  | .error f => i.failed Display.plain programSpec f
  | .ok .help => i.printed Display.plain programHelp
  | .ok (.action _) => i.failed Display.plain programSpec (.usage (.unknownCommand word))

def run (i : Invocation) : Completion :=
  match Preferences.read i.files i.arguments with
  | .error f => i.failed Display.plain programSpec f
  | .ok .help => i.printed Display.plain programHelp
  | .ok (.action (p, [])) => i.greet p
  | .ok (.action (p, word :: arguments)) =>
    match CommandName.ofWord? word with
    | none => i.refuse word arguments
    | some name => i.call p name arguments

end Invocation

end LinePipe.CommandLine
