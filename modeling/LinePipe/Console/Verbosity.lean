import LinePipe.Settings.Layer

/-!
# Verbosity

How much is printed, as a number: 0 is normal, more is more.

## Main definitions

- `Verbosity.ofCounts`: the verbosity that counted options ask for
- `Verbosity.effective`: the verbosity that counts
-/

namespace LinePipe.Verbosity

/-- Why counted options give no verbosity: they ask for more and for less. -/
inductive Conflict where
  | moreAndLess
  deriving Repr, DecidableEq

def Conflict.message : Conflict → Text
  | .moreAndLess => "The '--verbose' and '--quiet' options are mutually exclusive.".toList

def ofCounts (verbose quiet : Int) : Except Conflict Int :=
  if verbose > 0 && quiet > 0 then .error .moreAndLess
  else .ok (if quiet > 0 then -quiet else verbose)

/-- The verbosity of the settings, if they set one, and else what the options ask for. -/
def effective (settings : Option Settings) (asked : Int) : Int :=
  (settings.bind Settings.verbosity).getD asked

end LinePipe.Verbosity
