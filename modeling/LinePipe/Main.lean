import LinePipe.CommandLine.Footprint
import LinePipe.CommandLine.Program

/-!
# Entry point

Gathers the files that a run may look at, runs the program on them, prints what it printed and
writes what it changed.

## Main definitions

- `main`: the program as an executable
-/

namespace LinePipe.CommandLine

/-- The place of a path in the tree of all files. -/
def placeOf (files : Files) (path : Path) : List Text :=
  Files.lexical (files.start path) path.parts

/-- The absolute path of a place, as a string. -/
def placeName (files : Files) (place : List Text) : String :=
  String.ofList (files.absolute place).toText

/-- What stands at a place of the real files, put among what is known of them. A file that cannot be
read is known by the failure to come when it is opened. -/
def inspect (files : Files) (place : List Text) : IO Files := do
  let known (node : FileNode) : Files := { files with tree := (place, node) :: files.tree }
  try
    return known (.file (← IO.FS.readBinFile (placeName files place)).toList)
  catch e =>
    match e with
    | .noFileOrDirectory .. => return files
    | .permissionDenied .. =>
      return { known (.file []) with
        fault := some ⟨place.getLast?.getD [], .reading, AccessCause.denied⟩ }
    | _ => return known .directory

/-- The current directory with nothing else known of the real files. -/
def surroundings : IO Files := do
  let current := (Path.ofText (toString (← IO.currentDir)).toList).parts
  return { tree := [(current, .directory)], current }

/-- The variables of the environment. -/
def environment : IO Environment := do
  let read (name : String) : IO (Option Text) := do
    return (← IO.getEnv name).map String.toList
  return { forceColour := ← read "FORCE_COLOR", noColour := ← read "NO_COLOR"
           logLevel := ← read (String.ofList Environment.logLevelName) }

/-- The whole standard input. -/
partial def readAll (stream : IO.FS.Stream) (done : ByteArray := .empty) : IO ByteArray := do
  let chunk ← stream.read 65536
  if chunk.isEmpty then return done else readAll stream (done ++ chunk)

def store (before after : Files) : IO Unit := do
  for (place, node) in after.tree do
    match node with
    | .directory => pure ()
    | .file content =>
      if before.tree.node? place != some node then
        IO.FS.writeBinFile (placeName after place) ⟨content.toArray⟩

/-- Runs the program on the real files and streams. -/
def execute (arguments : List String) : IO UInt32 := do
  let out ← IO.getStdout
  let err ← IO.getStderr
  let files ← surroundings
  let bare : Invocation :=
    { arguments := arguments.map String.toList, files, environment := ← environment
      terminal := some (← out.isTty) }
  let files ← bare.footprint.foldlM (fun files path => inspect files (placeOf files path)) files
  let input ← if bare.wantsInput then readAll (← IO.getStdin) else pure .empty
  let done := Invocation.run { bare with files, input := input.toList }
  store files done.files
  err.putStr (String.ofList done.err)
  out.putStr (String.ofList done.out)
  return UInt32.ofNat done.ending.status

end LinePipe.CommandLine

def main (arguments : List String) : IO UInt32 :=
  LinePipe.CommandLine.execute arguments
