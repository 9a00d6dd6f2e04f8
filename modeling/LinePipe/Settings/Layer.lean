import LinePipe.Files.Path
import LinePipe.Outcome
import LinePipe.Settings.Newline
import LinePipe.Value.Basic

/-!
# Settings

What a user can set. Settings come from several sources; each source gives a layer, in which any
setting may be left unset, and layers are merged into one another. What stays unset in the end has
its default.

## Main definitions

- `Layer`: what one source sets
- `Settings`: a value for every setting
- `Table.setting?`: the setting under a key of a table, with a complaint about the wrong kind
- `Layer.merge`: one layer over another
- `Layer.ofTable`: the layer that a table of values gives
- `Layer.override`: settings given by a caller, put into a layer one by one
-/

namespace LinePipe

structure Settings where
  /-- How much is printed; `none` leaves it to the caller. -/
  verbosity : Option Int := none
  /-- The collation locale; the empty name leaves the one in force. -/
  locale : Text := []
  /-- Whether runs of digits compare by value. -/
  numeric : Bool := true
  newline : NewlineMode := .auto
  files : List Path := []
  deriving Repr, DecidableEq

/-- What one source sets. -/
@[ext] structure Layer where
  verbosity : Option Int := none
  locale : Option Text := none
  numeric : Option Bool := none
  newline : Option NewlineMode := none
  files : List Path := []
  deriving Repr, DecidableEq

inductive SettingKind where
  | text
  | integer
  | boolean
  deriving Repr, DecidableEq

def SettingKind.describe : SettingKind → Text
  | .text => "a string".toList
  | .integer => "an integer".toList
  | .boolean => "a boolean".toList

inductive SettingsError where
  /-- The value of a key is of another kind than wanted. -/
  | wrongKind (key : Text) (wanted : SettingKind) (found : Text)
  /-- The value names no line break policy. -/
  | newlineName (value : Text)
  /-- A file of settings cannot be read, for this reason. -/
  | unreadable (path : Path) (reason : Text)
  /-- A file of settings is not in the right form, for this reason. -/
  | malformed (path : Path) (reason : Text)
  | missingFile (path : Path)
  deriving Repr, DecidableEq

def SettingsError.message : SettingsError → Text
  | .wrongKind key wanted found =>
    "Config key ".toList ++ Text.quoted key ++ " must be ".toList ++ wanted.describe ++
      ", got ".toList ++ found
  | .newlineName value => NewlineMode.invalidMessage value
  | .unreadable path reason =>
    "Cannot read config file ".toList ++ path.toText ++ [':', ' '] ++ reason
  | .malformed path reason => "Invalid TOML in ".toList ++ path.toText ++ [':', ' '] ++ reason
  | .missingFile path => "Config file not found: ".toList ++ path.toText

namespace Table

/-- The value of a key, unless it is absent. -/
def value? (table : Table) (key : Text) : Option Value :=
  match table.lookup key with
  | none => none
  | some .absent => none
  | some v => some v

/-- What the value of a key holds if it is of the kind wanted; nothing if the key is unset. -/
def setting? {α : Type} (table : Table) (wanted : SettingKind) (holds : Value → Option α)
    (key : Text) : Except SettingsError (Option α) :=
  match table.value? key with
  | none => .ok none
  | some v =>
    match holds v with
    | some a => .ok (some a)
    | none => .error (.wrongKind key wanted v.kind)

def text? (table : Table) (key : Text) : Except SettingsError (Option Text) :=
  table.setting? .text Value.text? key

def integer? (table : Table) (key : Text) : Except SettingsError (Option Int) :=
  table.setting? .integer Value.integer? key

def boolean? (table : Table) (key : Text) : Except SettingsError (Option Bool) :=
  table.setting? .boolean Value.boolean? key

end Table

namespace SettingKey

def verbosity : Text := "verbosity_level".toList

def locale : Text := "locale".toList

def numeric : Text := "numeric".toList

def newline : Text := "newline".toList

/-- The key that ends the search for files of settings. -/
def root : Text := "root".toList

def known : List Text := [locale, numeric, newline, verbosity, root]

end SettingKey

def NewlineMode.parse (value : Text) : Except SettingsError NewlineMode :=
  match NewlineMode.ofName? value with
  | some mode => .ok mode
  | none => .error (.newlineName value)

namespace Layer

/-- The layer that sets every setting to its default but leaves the verbosity open. -/
def defaults : Layer where
  locale := some []
  numeric := some true
  newline := some .auto

/-- The settings of a layer, defaults being used for what is unset. -/
def freeze (l : Layer) : Settings where
  verbosity := l.verbosity
  locale := l.locale.getD []
  numeric := l.numeric.getD true
  newline := l.newline.getD .auto
  files := l.files

/-- What `upper` sets, and what `lower` sets where `upper` leaves it open. -/
def merge (lower upper : Layer) : Layer where
  verbosity := upper.verbosity.or lower.verbosity
  locale := upper.locale.or lower.locale
  numeric := upper.numeric.or lower.numeric
  newline := upper.newline.or lower.newline
  files := lower.files ++ upper.files

/-- The settings of a table. What is wrong is found in the order in which the keys are looked at
here, the name of the line break policy last. -/
def read (table : Table) (source : Option Path) : Except SettingsError Layer := do
  let policy ← table.text? SettingKey.newline
  let verbosity ← table.integer? SettingKey.verbosity
  let locale ← table.text? SettingKey.locale
  let numeric ← table.boolean? SettingKey.numeric
  let newline ← policy.mapM NewlineMode.parse
  return { verbosity, locale, numeric, newline, files := source.toList }

/-- The keys of a table that mean nothing. -/
def unknownKeys (table : Table) : List Text :=
  (table.map (·.1)).filter fun key => !SettingKey.known.elem key

/-- The warning about a key that means nothing. -/
def unknownKeyRecord (source : Option Path) (key : Text) : Record :=
  ⟨Log.Level.warning, "Ignoring unknown config key ".toList ++ Text.quoted key ++ " in ".toList ++
    ((source.map Path.toText).getD "<dict>".toList)⟩

/-- The layer that a table gives, with a warning for each key that means nothing. -/
def ofTable (table : Table) (source : Option Path := none) : Outcome SettingsError Layer :=
  ⟨(unknownKeys table).map fun key => .logged (unknownKeyRecord source key), read table source⟩

inductive OverrideError where
  | verbosity (failure : Value.IntegerFailure)
  | settings (error : SettingsError)
  /-- The line break policy is neither a policy nor a text. -/
  | newlineKind (kind : Text)
  deriving Repr, DecidableEq

def OverrideError.message : OverrideError → Text
  | .verbosity failure => failure.message
  | .settings error => error.message
  | .newlineKind kind =>
    ['\''] ++ kind ++ "' object has no attribute 'strip'".toList

/-- A line break policy as a caller may give it. -/
inductive NewlineChoice where
  | policy (mode : NewlineMode)
  /-- A value, which should be the name of a policy. -/
  | named (value : Value)
  deriving Repr

def NewlineChoice.resolve : NewlineChoice → Except OverrideError NewlineMode
  | .policy mode => .ok mode
  | .named (.text name) => (NewlineMode.parse name).mapError .settings
  | .named value => .error (.newlineKind value.kind)

/-- The choice, unless its value is absent. -/
def NewlineChoice.present? : NewlineChoice → Option NewlineChoice
  | .policy mode => some (.policy mode)
  | .named value => value.present?.map .named

/-- What a caller gives for each setting, as a value of one of the kinds there are. -/
structure Overrides where
  verbosity : Option Value := none
  locale : Option Value := none
  numeric : Option Value := none
  newline : Option NewlineChoice := none
  deriving Repr

/-- What a caller names for each setting. An absent value says that nothing is given. -/
structure Arguments where
  verbosity : Value := .absent
  locale : Value := .absent
  numeric : Value := .absent
  newline : NewlineChoice := .named .absent
  deriving Repr

def Arguments.given (a : Arguments) : Overrides where
  verbosity := a.verbosity.present?
  locale := a.locale.present?
  numeric := a.numeric.present?
  newline := a.newline.present?

/-- The layer with settings of a caller put in one by one: verbosity, locale, numeric and newline.
The first that cannot be used ends this, and those before it stay. Every value names a locale, by
the text that it is shown as; that an integer may have too many digits to be shown is left out, as
in `Value.toText`. -/
def override (l : Layer) (given : Overrides) : Layer × Option OverrideError :=
  match given.verbosity.mapM Value.toInteger with
  | .error failure => (l, some (.verbosity failure))
  | .ok verbosity =>
    let changed : Layer :=
      { l with
        verbosity := verbosity.or l.verbosity
        locale := (given.locale.map Value.toText).or l.locale
        numeric := (given.numeric.map Value.isTruthy).or l.numeric }
    match given.newline.mapM NewlineChoice.resolve with
    | .error error => (changed, some error)
    | .ok newline => ({ changed with newline := newline.or l.newline }, none)

end Layer

end LinePipe
