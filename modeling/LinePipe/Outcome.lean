import LinePipe.Log.Level

/-!
# Outcomes

What a computation did and how it ended. The events stand in the order in which they happened and
are kept when the computation fails.

## Main definitions

- `Event`: a log record or a shown document
- `Outcome`: events together with a value or an error
- `Outcome.records`, `Outcome.shown`: the events of one kind
-/

namespace LinePipe

structure Record where
  level : Log.Level
  message : Text
  deriving Repr, DecidableEq

/-- Something that a computation did, apart from its result. -/
inductive Event where
  | logged (record : Record)
  | displayed (document : Text)
  deriving Repr, DecidableEq

/-- The events of a computation and its value or error. -/
structure Outcome (ε α : Type) where
  events : List Event
  result : Except ε α

namespace Outcome

variable {ε ε' α β : Type}

def value (a : α) : Outcome ε α :=
  ⟨[], .ok a⟩

def fail (e : ε) : Outcome ε α :=
  ⟨[], .error e⟩

/-- A result as it is, and nothing done. -/
def ofExcept (r : Except ε α) : Outcome ε α :=
  ⟨[], r⟩

def log (level : Log.Level) (message : Text) : Outcome ε Unit :=
  ⟨[.logged ⟨level, message⟩], .ok ()⟩

def display (document : Text) : Outcome ε Unit :=
  ⟨[.displayed document], .ok ()⟩

/-- The second computation after the first, if the first ended with a value. -/
def andThen (x : Outcome ε α) (f : α → Outcome ε β) : Outcome ε β :=
  match x.result with
  | .ok a => ⟨x.events ++ (f a).events, (f a).result⟩
  | .error e => ⟨x.events, .error e⟩

instance : Monad (Outcome ε) where
  pure := value
  bind := andThen

/-- The same computation with its error put in other terms. -/
def mapError (f : ε → ε') (x : Outcome ε α) : Outcome ε' α :=
  ⟨x.events, x.result.mapError f⟩

def records (x : Outcome ε α) : List Record :=
  x.events.filterMap fun
    | .logged record => some record
    | .displayed _ => none

def shown (x : Outcome ε α) : List Text :=
  x.events.filterMap fun
    | .logged _ => none
    | .displayed document => some document

@[simp] theorem result_pure (a : α) : (pure a : Outcome ε α).result = .ok a := rfl

@[simp] theorem result_log (level : Log.Level) (message : Text) :
    (log level message : Outcome ε Unit).result = .ok () := rfl

/-- The result of two computations in a row is the result of the second on the value of the
first. -/
@[simp] theorem result_bind (x : Outcome ε α) (f : α → Outcome ε β) :
    (x >>= f).result = x.result.bind fun a => (f a).result := by
  change (andThen x f).result = _
  unfold andThen
  cases x.result <;> rfl

end Outcome

end LinePipe
