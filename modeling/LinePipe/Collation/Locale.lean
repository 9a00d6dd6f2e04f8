import LinePipe.Outcome
import LinePipe.Text.Quoted

/-!
# Collation locales

The locales that can be chosen for collation. They all belong to the C family, in which characters
compare by code point, so a choice never changes an order; but only an available one can be made.

## Main definitions

- `Locale.resolve`: the locale that a name stands for
- `Locale.activate`: the same, with the choice logged
-/

namespace LinePipe

namespace Locale

inductive Failure where
  /-- There is no such locale. -/
  | unsupported (name : Text)
  /-- The name holds a null character, so it cannot be looked up. -/
  | nullInName
  deriving Repr, DecidableEq

def Failure.message : Failure → Text
  | .unsupported name => "Unsupported collation locale: ".toList ++ Text.quoted name
  | .nullInName => "embedded null character".toList

/-- The available names, each with the locale it stands for. The empty name stands for the default
of the environment. -/
def available : List (Text × Text) :=
  [("C".toList, "C".toList), ("POSIX".toList, "C".toList), ([], "C".toList),
   ("C.UTF-8".toList, "C.UTF-8".toList), ("C.utf8".toList, "C.utf8".toList)]

def resolve (name : Text) : Except Failure Text :=
  if name.elem '\x00' then .error .nullInName
  else
    match available.lookup name with
    | some locale => .ok locale
    | none => .error (.unsupported name)

/-- Chooses the locale that a name stands for. -/
def activate (name : Text) : Outcome Failure Text := do
  let locale ← Outcome.ofExcept (resolve name)
  Outcome.log Log.Level.debug <|
    "LC_COLLATE set to ".toList ++ Text.quoted locale ++ " (requested ".toList ++
      Text.quoted name ++ [')']
  return locale

end Locale

end LinePipe
