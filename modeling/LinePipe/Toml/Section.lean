import LinePipe.Value.Basic

/-!
# Sections of settings files

What a settings file says, before it is one table. The same section may be opened in several places,
and a dotted key opens sections on its way, so a body is kept as the list of its entries, in which
one key may occur again as long as this only adds to a section.

## Main definitions

- `Toml.Entry`, `Toml.Item`: an entry of a body, and what it holds
- `Toml.append`: a body with one more entry, unless it clashes with what is there
- `Toml.check`: whether the sections that a key opens in several places go together
- `Toml.toTable`: the table that a body gives
-/

namespace LinePipe.Toml

mutual

inductive Item where
  | value (v : Value)
  /-- A section. It is implied if it was opened only on the way to another one. -/
  | block (implied : Bool) (body : List Entry)
  /-- Sections of one name that count one by one, each with its body. -/
  | sequence (bodies : List (List Entry))

/-- A key with what it holds. The key is dotted if it was written as the start of a dotted key. -/
inductive Entry where
  | mk (key : Text) (dotted : Bool) (item : Item)

end

/-- What is wrong with two entries of one key. -/
inductive Clash where
  /-- The key is there already. -/
  | duplicate (key : Text)
  /-- A section is opened again that a dotted key opened. -/
  | redefined
  deriving Repr, DecidableEq

def Clash.message : Clash → Text
  | .duplicate key => "Key \"".toList ++ key ++ "\" already exists.".toList
  | .redefined => "Redefinition of an existing table".toList

def Entry.key : Entry → Text
  | mk key _ _ => key

def Entry.item : Entry → Item
  | mk _ _ item => item

def Entry.isDotted : Entry → Bool
  | mk _ dotted _ => dotted

def Item.isSection : Item → Bool
  | block _ _ => true
  | _ => false

def entriesOf (body : List Entry) (key : Text) : List Entry :=
  body.filter fun e => e.key == key

/-- The keys of a body, each once, in the order of their first entries. -/
def keysOf (body : List Entry) : List Text :=
  (body.map Entry.key).eraseDups

def bodiesOf : List Entry → List (List Entry)
  | [] => []
  | .mk _ _ (.block _ body) :: rest => body :: bodiesOf rest
  | _ :: rest => bodiesOf rest

def replaceLast (body : List Entry) (key : Text) (item : Item) : List Entry :=
  match body with
  | [] => []
  | e :: rest =>
    if e.key == key && (entriesOf rest key).isEmpty then .mk e.key e.isDotted item :: rest
    else e :: replaceLast rest key item

def lastSection? (body : List Entry) : Option Entry :=
  (body.filter fun e => e.item.isSection).getLast?

/-- Entries put behind those of a body. A key may come again after a section, and sequences of one
key are joined. -/
def gather (body : List Entry) : List Entry → Except Clash (List Entry)
  | [] => .ok body
  | e :: rest =>
    match (entriesOf body e.key).getLast?.map Entry.item, e.item with
    | none, _ => gather (body ++ [e]) rest
    | some (.block _ _), _ => gather (body ++ [e]) rest
    | some (.sequence before), .sequence bodies =>
      gather (replaceLast body e.key (.sequence (before ++ bodies))) rest
    | some _, _ => .error (.duplicate e.key)

/-- Whether some section is opened in one body by a dotted key and in the other by a header. -/
def isMixed (body other : List Entry) : Bool :=
  body.any fun d => d.item.isSection &&
    other.any fun e => e.key == d.key && e.item.isSection && e.isDotted != d.isDotted

/-- Whether some two of the bodies are mixed. -/
def hasMixed : List (List Entry) → Bool
  | [] => false
  | body :: rest => rest.any (isMixed body) || hasMixed rest

/-- A bound on how far `append` and `check` follow sections inside sections. -/
def depthLimit : Nat := 10000

mutual

/-- A body with one more entry. A section may be opened again where this only adds to it: by the
headers of sections inside it, and once by a header of its own if it was implied so far. A header of
a section inside a sequence belongs to the last section of the sequence. With `checked`, sections
opened in several places are checked at once. -/
def append (fuel : Nat) (checked : Bool) (body : List Entry) (e : Entry) :
    Except Clash (List Entry) :=
  match fuel with
  | 0 => .ok body
  | fuel + 1 =>
    match (entriesOf body e.key).getLast? with
    | none => .ok (body ++ [e])
    | some current =>
      match current.item, e.item with
      | .sequence before, .sequence bodies =>
        .ok (replaceLast body e.key (.sequence (before ++ bodies)))
      | .sequence before, .block true inner =>
        if e.isDotted then .error (.duplicate e.key)
        else do
          let last ← appendAll fuel (before.getLast?.getD []) inner
          return replaceLast body e.key (.sequence (before.dropLast ++ [last]))
      | .block true outer, .block true inner =>
        if e.isDotted || current.isDotted || (lastSection? body).map Entry.key != some e.key then
          reopen fuel checked body e
        else do
          let merged ← appendAll fuel outer inner
          return replaceLast body e.key (.block true merged)
      | .block true _, .block false _ =>
        if current.isDotted then .error .redefined else reopen fuel checked body e
      | .block false _, .block true _ => reopen fuel checked body e
      | _, _ => .error (.duplicate e.key)

/-- A body with one more entry of a key that is there. -/
def reopen (fuel : Nat) (checked : Bool) (body : List Entry) (e : Entry) :
    Except Clash (List Entry) :=
  match fuel with
  | 0 => .ok body
  | fuel + 1 => do
    if checked then check fuel (body ++ [e]) e.key
    return body ++ [e]

/-- A body with more entries, one after the other, each of them checked and gathered. -/
def appendAll (fuel : Nat) (body entries : List Entry) : Except Clash (List Entry) :=
  match fuel with
  | 0 => .ok body
  | fuel + 1 =>
    entries.foldlM (fun body e => do
      let body ← append fuel true body e
      checkGathered fuel body e.key
      return body) body

/-- Checks that the sections which a key opens in several places go together, and those inside them:
none of them may be opened by a dotted key in one place and by a header in another, and together
they must give one body. -/
def check (fuel : Nat) (body : List Entry) (key : Text) : Except Clash Unit :=
  match fuel with
  | 0 => .ok ()
  | fuel + 1 =>
    let entries := entriesOf body key
    if entries.length ≤ 1 then .ok ()
    else if hasMixed (bodiesOf (entries.filter fun e => !e.isDotted)) then .error .redefined
    else do
      let inner ← (bodiesOf entries).flatten.foldlM (append fuel false) []
      (keysOf inner).forM (check fuel inner)

/-- The sections that a key opens in several places as one body, which is checked. -/
def gatherAll (fuel : Nat) (body : List Entry) (key : Text) : Except Clash (List Entry) :=
  match fuel with
  | 0 => .ok []
  | fuel + 1 => do
    let inner ← gather [] (bodiesOf (entriesOf body key)).flatten
    (keysOf inner).forM (check fuel inner)
    return inner

/-- Checks that the sections which a key opens in several places can be gathered. -/
def checkGathered (fuel : Nat) (body : List Entry) (key : Text) : Except Clash Unit :=
  match fuel with
  | 0 => .ok ()
  | fuel + 1 =>
    if (entriesOf body key).length ≤ 1 then .ok () else (gatherAll fuel body key).map fun _ => ()

end

/-- An item inside an implied section for each name. The names but the last are dotted if a dotted
key gives them. -/
def nest (dotted : Bool) (names : List Text) (item : Item) : Item :=
  match names with
  | [] => item
  | [name] => .block true [.mk name false item]
  | name :: rest => .block true [.mk name dotted (nest dotted rest item)]

/-- The body of a section with one more entry. What headers add to it is gathered but not checked
before the section is whole. -/
def appendInside (body : List Entry) (e : Entry) : Except Clash (List Entry) := do
  let body ← append depthLimit e.isDotted body e
  checkGathered depthLimit body e.key
  return body

def checkAll (body : List Entry) : Except Clash Unit :=
  (keysOf body).forM (check depthLimit body)

/-- The entry for a value of a key that may have several names. -/
def entryFor (name : Text) (names : List Text) (v : Value) : Entry :=
  .mk name (!names.isEmpty) (nest true names (.value v))

/-- A body with a value for a key that may have several names. -/
def appendValue (body : List Entry) (names : List Text) (v : Value) : Except Clash (List Entry) :=
  match names with
  | [] => .ok body
  | name :: rest => append depthLimit true body (entryFor name rest v)

mutual

def itemValue (fuel : Nat) (item : Item) : Except Clash Value :=
  match fuel with
  | 0 => .ok .absent
  | fuel + 1 =>
    match item with
    | .value v => .ok v
    | .block _ body => (toTable fuel body).map .table
    | .sequence bodies => do
      let tables ← bodies.mapM (toTable fuel)
      return .list (tables.map .table)

/-- The table that a body gives. Sections of one name are put together. The fuel bounds the depth of
sections. -/
def toTable (fuel : Nat) (body : List Entry) : Except Clash Table :=
  match fuel with
  | 0 => .ok []
  | fuel + 1 =>
    (keysOf body).mapM fun key =>
      match entriesOf body key with
      | [e] => do
        let v ← itemValue fuel e.item
        return (key, v)
      | _ => do
        let table ← toTable fuel (← gatherAll depthLimit body key)
        return (key, .table table)

end

end LinePipe.Toml
