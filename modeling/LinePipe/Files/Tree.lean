import LinePipe.Files.Access
import LinePipe.Text.Utf8

/-!
# Files

A tree of files and directories, and a view of it from a current directory. Opening a file can be
made to fail, so that the handling of such failures can be studied.

## Main definitions

- `FileTree`: the files and directories
- `Files`: a tree with a current directory and the failures to come
- `Files.read`, `Files.write`, `Files.isFile`: the operations
-/

namespace LinePipe

/-- What may stand at a place of a file tree. -/
inductive FileNode where
  | directory
  | file (content : Octets)
  deriving Repr, DecidableEq

/-- What stands at the places of a tree, a place being given by the names that lead to it from the
top. -/
abbrev FileTree := List (List Text × FileNode)

namespace FileTree

/-- What stands at a place. The top is a directory, and so is each place with something below it. -/
def node? (tree : FileTree) (place : List Text) : Option FileNode :=
  match tree.lookup place with
  | some node => some node
  | none =>
    if place.isEmpty || tree.any (fun entry => place.isPrefixOf entry.1) then some .directory
    else none

/-- The tree with a file of this content at a place. -/
def put (tree : FileTree) (place : List Text) (content : Octets) : FileTree :=
  match tree with
  | [] => [(place, .file content)]
  | (p, node) :: rest =>
    if p == place then (p, .file content) :: rest else (p, node) :: put rest place content

/-- The greatest number of octets of a name. -/
def nameLimit : Nat := 255

/-- The place that names lead to from `place`. Two dots lead up. -/
def walk (tree : FileTree) (place : List Text) : List Text → Except AccessCause (List Text)
  | [] => .ok place
  | name :: rest =>
    match tree.node? place with
    | none => .error .missing
    | some (.file _) => .error .notDirectory
    | some .directory =>
      if name == ['.', '.'] then walk tree place.dropLast rest
      else if (Utf8.encode name).length > nameLimit then .error .nameTooLong
      else walk tree (place ++ [name]) rest

end FileTree

inductive OpenMode where
  | reading
  | writing
  deriving Repr, DecidableEq

/-- A failure to come: opening any file of this name for this purpose fails. -/
structure OpenFault where
  name : Text
  mode : OpenMode
  cause : AccessCause
  deriving Repr, DecidableEq

/-- A file tree seen from a current directory. -/
structure Files where
  tree : FileTree := []
  /-- The text that stands for the top of the tree in absolute paths. -/
  top : Text := []
  /-- The place of the current directory. -/
  current : List Text := []
  fault : Option OpenFault := none
  deriving Repr, DecidableEq

namespace Files

/-- The names in a place, two dots taking back the name before them. -/
def lexical (place : List Text) : List Text → List Text
  | [] => place
  | name :: rest =>
    if name == ['.', '.'] then lexical place.dropLast rest else lexical (place ++ [name]) rest

def start (fs : Files) (p : Path) : List Text :=
  if p.anchor.isSome then [] else fs.current

def absolute (fs : Files) (place : List Text) : Path :=
  { anchor := some fs.top, parts := place }

/-- The absolute form of a path, without two dots. -/
def resolve (fs : Files) (p : Path) : Path :=
  fs.absolute (lexical (fs.start p) p.parts)

def holdsNull (p : Path) : Bool :=
  p.parts.any fun part => part.elem '\x00'

/-- The greatest number of octets of a path that can be opened. -/
def pathLimit : Nat := 4095

/-- Whether a path starts at a place outside the tree, of which nothing is known. -/
def isOutside (fs : Files) (p : Path) : Bool :=
  p.anchor.any (· != fs.top)

def locate (fs : Files) (p : Path) : Except AccessCause (List Text) :=
  if (Utf8.encode p.toText).length > pathLimit then .error .nameTooLong
  else if fs.isOutside p then .error .missing
  else fs.tree.walk (fs.start p) p.parts

/-- Whether a path leads to a file. That cannot be told if the operating system refuses the path as
too long. -/
def isFile (fs : Files) (p : Path) : Except AccessError Bool :=
  if holdsNull p then .ok false
  else
    match fs.locate p with
    | .error cause => if cause == .nameTooLong then .error (.refused cause p) else .ok false
    | .ok place =>
      match fs.tree.node? place with
      | some (.file _) => .ok true
      | _ => .ok false

def isDirectory (fs : Files) (p : Path) : Bool :=
  !holdsNull p &&
    match fs.locate p with
    | .error _ => false
    | .ok place => fs.tree.node? place == some .directory

/-- The failure that is to come when a path is opened. -/
def fault? (fs : Files) (p : Path) (mode : OpenMode) : Option AccessCause :=
  fs.fault.bind fun f => if f.name == p.name && f.mode == mode then some f.cause else none

/-- The place of the file to open, or why it cannot be opened. -/
def opened (fs : Files) (p : Path) (mode : OpenMode) : Except AccessError (List Text) :=
  match fs.fault? p mode with
  | some cause => .error (.refused cause p)
  | none =>
    if holdsNull p then .error .nullInPath
    else
      match fs.locate p with
      | .error cause => .error (.refused cause p)
      | .ok place => .ok place

def read (fs : Files) (p : Path) : Except AccessError Octets := do
  let place ← fs.opened p .reading
  match fs.tree.node? place with
  | none => .error (.refused .missing p)
  | some .directory => .error (.refused .isDirectory p)
  | some (.file content) => .ok content

def write (fs : Files) (p : Path) (content : Octets) : Except AccessError Files := do
  let place ← fs.opened p .writing
  match fs.tree.node? place with
  | some .directory => .error (.refused .isDirectory p)
  | _ => .ok { fs with tree := fs.tree.put place content }

end Files

end LinePipe
