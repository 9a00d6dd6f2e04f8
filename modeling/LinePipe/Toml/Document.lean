import LinePipe.Toml.Piece

/-!
# Settings files

A settings file is a text in TOML: lines that give a value to a key, and headers that open sections.

## Main definitions

- `Toml.readValue`: a value at the start of a text
- `Toml.read`: the table that a text stands for
- `Toml.Failure`: why a text stands for none
-/

namespace LinePipe.Toml

/-- An error about entries as an error about the text. -/
def clashing {α : Type} (r : Except Clash α) : Except Fault α :=
  r.mapError .clash

mutual

/-- A value at the start of a text; `room` more values may stand inside each other from here on. -/
def readValue (fuel room : Nat) (t : Text) : Except Fault (Value × Text) :=
  match fuel, t, room with
  | 0, _, _ => .error .malformed
  | _, '[' :: _, 0 => .error .malformed
  | _, '\x7b' :: _, 0 => .error .malformed
  | fuel + 1, '[' :: rest, room + 1 =>
    (readItems fuel room rest).map fun (items, rest) => (.list items, rest)
  | fuel + 1, '\x7b' :: rest, room + 1 => do
    let (body, rest) ← readEntries fuel room [] rest
    let table ← clashing (toTable depthLimit body)
    return (.table table, rest)
  | _, t, _ => readScalar t

/-- The values of a list up to its closing bracket. A comma may stand after the last one. -/
def readItems (fuel room : Nat) (t : Text) : Except Fault (List Value × Text) :=
  match fuel with
  | 0 => .error .malformed
  | fuel + 1 => do
    match ← skipBlank false t with
    | ']' :: rest => return ([], rest)
    | t => do
      let (v, t) ← readValue fuel room t
      match ← skipBlank false t with
      | ']' :: rest => return ([v], rest)
      | ',' :: rest => do
        let (items, rest) ← readItems fuel room rest
        return (v :: items, rest)
      | _ => throw .malformed

/-- The entries of a table between braces up to the closing one. A comma may stand after the last
one. -/
def readEntries (fuel room : Nat) (body : List Entry) (t : Text) :
    Except Fault (List Entry × Text) :=
  match fuel with
  | 0 => .error .malformed
  | fuel + 1 => do
    match ← skipBlank false t with
    | '\x7d' :: rest => return (body, rest)
    | t => do
      let (names, t) ← readKey t
      let t ← skipEquals t
      let (v, t) ← readValue fuel room t
      let body ← clashing (appendValue body names v)
      match ← skipBlank false t with
      | '\x7d' :: rest => return (body, rest)
      | ',' :: rest => readEntries fuel room body rest
      | _ => throw .malformed

end

/-- What the next line of a body is. -/
inductive Line where
  /-- A line without an entry. -/
  | blank (rest : Text)
  /-- An entry. -/
  | entry (names : List Text) (v : Value) (rest : Text)
  /-- The header of a section, which starts here. -/
  | header (rest : Text)

/-- Enough fuel for any value in a text. -/
def fuelFor (t : Text) : Nat :=
  4 * t.length + 8

def readLine (t : Text) : Except Fault Line := do
  match t.dropWhile fun c => isSpace c || c == '\r' with
  | [] => return .blank []
  | '\n' :: rest => return .blank rest
  | '#' :: rest => do
    let rest ← skipComment rest
    return .blank (skipOne '\n' (skipOne '\r' rest))
  | '[' :: rest => return .header ('[' :: rest)
  | _ => do
    let (names, t) ← readKey t
    let t ← skipEquals t
    let (v, t) ← readValue (fuelFor t) nestingLimit t
    let rest ← skipTrail t
    return .entry names v rest

/-- The start of a header: whether it opens a section that counts as one of several, its names, and
the text after them. -/
def readHeaderNames : Text → Except Fault (Bool × List Text × Text)
  | '[' :: '[' :: rest => do
    let (names, rest) ← readKey rest
    return (true, names, rest)
  | '[' :: rest => do
    let (names, rest) ← readKey rest
    return (false, names, rest)
  | _ => .error .malformed

def readHeader (t : Text) : Except Fault (Bool × List Text × Text) := do
  match ← readHeaderNames t with
  | (false, names, ']' :: rest) => return (false, names, ← skipTrail rest)
  | (true, names, ']' :: ']' :: rest) => return (true, names, ← skipTrail rest)
  | _ => throw .malformed

/-- Whether the second key is the first with further names. -/
def isInside (outer inner : List Text) : Bool :=
  outer != inner && outer.isPrefixOf inner

mutual

/-- The body of a section with these names: its lines, and the sections inside it. -/
def readBody (fuel : Nat) (names : List Text) (body : List Entry) (t : Text) :
    Except Fault (List Entry × Text) :=
  match fuel with
  | 0 => .error .malformed
  | fuel + 1 =>
    if t.isEmpty then .ok (body, [])
    else do
      match ← readLine t with
      | .blank rest => readBody fuel names body rest
      | .entry keys v rest => do
        match keys with
        | [] => readBody fuel names body rest
        | key :: others => do
          let body ← clashing (appendInside body (entryFor key others v))
          readBody fuel names body rest
      | .header rest => readInner fuel names body rest

/-- The sections that stand inside the section with these names, directly after its body. -/
def readInner (fuel : Nat) (names : List Text) (body : List Entry) (t : Text) :
    Except Fault (List Entry × Text) :=
  match fuel with
  | 0 => .error .malformed
  | fuel + 1 =>
    if t.isEmpty then .ok (body, [])
    else do
      let (_, next, _) ← readHeaderNames t
      if isInside names next then do
        let (e, rest) ← readSection fuel names t
        let body ← clashing (appendInside body e)
        readInner fuel names body rest
      else return (body, t)

/-- The body of a section with these names, checked once it is whole. -/
def readWhole (fuel : Nat) (names : List Text) (t : Text) : Except Fault (List Entry × Text) :=
  match fuel with
  | 0 => .error .malformed
  | fuel + 1 => do
    let (body, rest) ← readBody fuel names [] t
    clashing (checkAll body)
    return (body, rest)

/-- A section, given the names of the section that it stands in, as an entry for the latter. The
sections on the way to it are implied. -/
def readSection (fuel : Nat) (outer : List Text) (t : Text) : Except Fault (Entry × Text) :=
  match fuel with
  | 0 => .error .malformed
  | fuel + 1 => do
    let (counted, names, rest) ← readHeader t
    let (body, rest) ← readWhole fuel names rest
    match names.drop outer.length with
    | [] => throw .malformed
    | [name] =>
      if counted then do
        let (more, rest) ← readSequence fuel names rest
        return (.mk name false (.sequence (body :: more)), rest)
      else return (.mk name false (.block false body), rest)
    | name :: others =>
      let item : Item := if counted then .sequence [body] else .block false body
      return (.mk name false (nest false others item), rest)

/-- The further sections of a sequence with these names that stand directly after another. -/
def readSequence (fuel : Nat) (names : List Text) (t : Text) :
    Except Fault (List (List Entry) × Text) :=
  match fuel with
  | 0 => .error .malformed
  | fuel + 1 =>
    if t.isEmpty then .ok ([], [])
    else do
      let (counted, next, _) ← readHeaderNames t
      if counted && next == names then do
        let (_, _, rest) ← readHeader t
        let (body, rest) ← readWhole fuel names rest
        let (more, rest) ← readSequence fuel names rest
        return (body :: more, rest)
      else return ([], t)

end

/-- The lines before the first section. An entry that clashes makes the text malformed. -/
def readTop (fuel : Nat) (body : List Entry) (t : Text) : Except Fault (List Entry × Text) :=
  match fuel with
  | 0 => .error .malformed
  | fuel + 1 =>
    if t.isEmpty then .ok (body, [])
    else do
      match ← readLine t with
      | .blank rest => readTop fuel body rest
      | .entry names v rest =>
        match appendValue body names v with
        | .error _ => throw .malformed
        | .ok body => readTop fuel body rest
      | .header rest => return (body, rest)

/-- The sections of a text. A section that clashes with another makes the text malformed. -/
def readSections (fuel : Nat) (body : List Entry) (t : Text) : Except Fault (List Entry) :=
  match fuel with
  | 0 => .error .malformed
  | fuel + 1 =>
    if t.isEmpty then .ok body
    else do
      let (e, rest) ← readSection (fuelFor t) [] t
      match append depthLimit true body e with
      | .error _ => throw .malformed
      | .ok body => readSections fuel body rest

inductive Failure where
  | malformed
  /-- Two entries of one key do not go together. -/
  | clash (clash : Clash)
  deriving Repr, DecidableEq

/-- An error about the text as a reason why it stands for no table. -/
def Fault.failure : Fault → Failure
  | .clash c => .clash c
  | _ => .malformed

def read (t : Text) : Except Failure Table := do
  let (body, rest) ← (readTop (fuelFor t) [] t).mapError Fault.failure
  let body ← (readSections (fuelFor t) body rest).mapError Fault.failure
  (toTable depthLimit body).mapError .clash

end LinePipe.Toml
