import LinePipe.Text.Basic

/-!
# Paths

A path is a list of names. It starts at the current directory, or at a place that has a text of its
own, such as the top of a file tree.

## Main definitions

- `Path`: a path
- `Path.ofText`, `Path.toText`: reading and showing
- `Path.name`, `Path.parent`, `Path.join`: taking apart and putting together
-/

namespace LinePipe

structure Path where
  /-- The text of the place where the path starts; `none` for the current directory. -/
  anchor : Option Text := none
  /-- The names on the way. -/
  parts : List Text
  deriving Repr, DecidableEq

namespace Path

/-- The path that a text gives. Empty names and single dots are left out. -/
def ofText (t : Text) : Path where
  anchor := if t.head? == some '/' then some [] else none
  parts := (Text.splitOn '/' t).filter fun part => !part.isEmpty && part != ['.']

def toText (p : Path) : Text :=
  match p.anchor with
  | none => if p.parts.isEmpty then ['.'] else Text.joinWith ['/'] p.parts
  | some anchor =>
    if p.parts.isEmpty && !anchor.isEmpty then anchor
    else anchor ++ ['/'] ++ Text.joinWith ['/'] p.parts

def name (p : Path) : Text :=
  p.parts.getLast?.getD []

def parent (p : Path) : Path :=
  { p with parts := p.parts.dropLast }

def child (p : Path) (name : Text) : Path :=
  { p with parts := p.parts ++ [name] }

/-- The second path taken from where the first one leads. -/
def join (p q : Path) : Path :=
  match q.anchor with
  | none => { p with parts := p.parts ++ q.parts }
  | some _ => q

/-- The paths from the given one up to the place where it starts, nearest first. -/
def ancestors (p : Path) : List Path :=
  (List.range (p.parts.length + 1)).reverse.map fun n => { p with parts := p.parts.take n }

end Path

end LinePipe
