import LinePipe.Proofs.Settings.Reading

/-!
# Settings from a caller

Layers are merged one over another, and it does not matter in which order neighbours are merged; the
layer that sets nothing changes nothing. What a caller gives is put into a layer setting by setting.
If all of it can be used, this is merging a layer over it that sets what is given. If something
cannot be used, only what comes before it is merged, so the line break policy, which comes last, is
never changed then, and the files are never changed at all.

## Main definitions

- `Overrides.WellFormed`: all that is given can be used
- `Overrides.layer`: the layer that sets what is given
- `Overrides.before`: what is given for the settings before one
- `Overrides.FirstFails`: the first setting for which something is given that cannot be used
- `Layer.OverridesByMerging`: overriding a layer is merging another over it

## Main statements

- `Layer.merge_assoc`, `Layer.empty_merge`, `Layer.merge_empty`: the laws of merging
- `Layer.override_of_wellFormed`: what is given is merged
- `Layer.override_of_firstFails`: what comes before the failure is merged
- `Layer.override_override`: giving the same again changes nothing
- `Layer.mergesAndOverrides`: this for all layers and all that a caller names
-/

namespace LinePipe

namespace Layer

/-! ## Merging -/

theorem merge_assoc (lower middle upper : Layer) :
    (lower.merge middle).merge upper = lower.merge (middle.merge upper) := by
  ext1
  · exact Option.or_assoc.symm
  · exact Option.or_assoc.symm
  · exact Option.or_assoc.symm
  · exact Option.or_assoc.symm
  · exact List.append_assoc ..

/-- A layer that sets nothing changes nothing in what lies over it. -/
theorem empty_merge (l : Layer) : merge {} l = l := by
  ext1
  · exact Option.or_none
  · exact Option.or_none
  · exact Option.or_none
  · exact Option.or_none
  · exact List.nil_append _

/-- A layer that sets nothing changes nothing in what it lies over. -/
theorem merge_empty (l : Layer) : l.merge {} = l := by
  ext1
  · exact Option.none_or
  · exact Option.none_or
  · exact Option.none_or
  · exact Option.none_or
  · exact List.append_nil _

/-- A layer without files has nothing to change once it lies over another. -/
theorem merge_merge_self {l upper : Layer} (h : upper.files = []) :
    (l.merge upper).merge upper = l.merge upper := by
  have hself : upper.merge upper = upper := by
    ext1
    · exact Option.or_self
    · exact Option.or_self
    · exact Option.or_self
    · exact Option.or_self
    · rw [merge, h, List.append_nil]
  rw [merge_assoc, hself]

/-! ## What a caller gives -/

/-- What a caller gives can be used: the verbosity stands for an integer, and the line break policy
is one or names one. -/
structure Overrides.WellFormed (given : Overrides) : Prop where
  verbosity : ∀ value, given.verbosity = some value → ∃ n, value.toInteger = .ok n
  newline : ∀ choice, given.newline = some choice → ∃ mode, choice.resolve = .ok mode

/-- The layer that sets what a caller gives, so far as it can be used. It has no files. -/
def Overrides.layer (given : Overrides) : Layer where
  verbosity := given.verbosity.bind fun value => value.toInteger.toOption
  locale := given.locale.map Value.toText
  numeric := given.numeric.map Value.isTruthy
  newline := given.newline.bind fun choice => choice.resolve.toOption

/-- The settings in the order in which they are put into a layer. -/
inductive Setting where
  | verbosity
  | locale
  | numeric
  | newline

/-- What a caller gives for the settings before one. -/
def Overrides.before (given : Overrides) : Setting → Overrides
  | .verbosity => {}
  | .locale => { verbosity := given.verbosity }
  | .numeric => { verbosity := given.verbosity, locale := given.locale }
  | .newline =>
    { verbosity := given.verbosity, locale := given.locale, numeric := given.numeric }

/-- What a caller gives for a setting cannot be used, for a reason. Every value can be used as the
name of a locale and as a truth value. -/
inductive Overrides.Fails (given : Overrides) : Setting → OverrideError → Prop
  | verbosity {value : Value} {failure : Value.IntegerFailure}
      (hvalue : given.verbosity = some value) (hfailure : value.toInteger = .error failure) :
      given.Fails .verbosity (.verbosity failure)
  | newline {choice : NewlineChoice} {error : OverrideError}
      (hchoice : given.newline = some choice) (herror : choice.resolve = .error error) :
      given.Fails .newline error

/-- What a caller gives for a setting cannot be used, and all before it can. -/
structure Overrides.FirstFails (given : Overrides) (s : Setting) (error : OverrideError) :
    Prop where
  fails : given.Fails s error
  before : (given.before s).WellFormed

/-- Overriding a layer by what a caller names is merging a layer over it. -/
structure OverridesByMerging (l : Layer) (a : Arguments) : Prop where
  /-- Absent values can be used, and so can any verbosity that stands for an integer and any line
  break policy or name of one. -/
  wellFormed_iff : a.given.WellFormed ↔
    (a.verbosity = .absent ∨ ∃ n, a.verbosity.toInteger = .ok n) ∧
      (a.newline = .named .absent ∨ (∃ mode, a.newline = .policy mode) ∨
        ∃ name mode, a.newline = .named (.text name) ∧ NewlineMode.IsNamedBy mode name)
  /-- If all can be used, the layer that sets what is given is merged. -/
  merges : a.given.WellFormed → l.override a.given = (l.merge a.given.layer, none)
  /-- If something cannot be used, what is given before it is merged, and the reason is told. -/
  stops : ∀ s error, a.given.FirstFails s error →
    l.override a.given = (l.merge (a.given.before s).layer, some error)
  ends : a.given.WellFormed ∨ ∃ s error, a.given.FirstFails s error
  newline : ∀ error, (l.override a.given).2 = some error →
    (l.override a.given).1.newline = l.newline
  files : (l.override a.given).1.files = l.files
  again : (l.override a.given).1.override a.given = l.override a.given

/-! ## What can be used -/

theorem NewlineChoice.resolve_eq_ok_iff {choice : NewlineChoice} {mode : NewlineMode} :
    choice.resolve = .ok mode ↔ choice = .policy mode ∨
      ∃ name, choice = .named (.text name) ∧ mode.IsNamedBy name := by
  cases choice with
  | policy mode' => simp [resolve]
  | named value =>
    cases value with
    | text name => simp [resolve, except_mapError_eq_ok_iff, NewlineMode.parse_eq_ok_iff]
    | _ => simp [resolve]

/-- What may be there can be used, or it is there and cannot. -/
theorem usable_or_fails {α β ε : Type} (f : α → Except ε β) (o : Option α) :
    (∀ a, o = some a → ∃ b, f a = .ok b) ∨ ∃ a e, o = some a ∧ f a = .error e := by
  cases o with
  | none =>
    left
    intro a ha
    cases ha
  | some a =>
    cases h : f a with
    | error e => exact .inr ⟨a, e, rfl, h⟩
    | ok b =>
      left
      intro a' ha'
      cases ha'
      exact ⟨b, h⟩

namespace Arguments

variable {a : Arguments}

theorem wellFormed_given_iff :
    a.given.WellFormed ↔ (a.verbosity = .absent ∨ ∃ n, a.verbosity.toInteger = .ok n) ∧
      (a.newline = .named .absent ∨ (∃ mode, a.newline = .policy mode) ∨
        ∃ name mode, a.newline = .named (.text name) ∧ NewlineMode.IsNamedBy mode name) := by
  have hverbosity : (∀ value, a.verbosity.present? = some value → ∃ n, value.toInteger = .ok n) ↔
      a.verbosity = .absent ∨ ∃ n, a.verbosity.toInteger = .ok n := by
    cases a.verbosity <;> simp [Value.present?]
  have hnewline : (∀ choice, a.newline.present? = some choice →
      ∃ mode, choice.resolve = .ok mode) ↔
        a.newline = .named .absent ∨ ∃ mode, a.newline.resolve = .ok mode := by
    cases a.newline with
    | policy mode => simp [NewlineChoice.present?]
    | named value => cases value <;> simp [NewlineChoice.present?, Value.present?]
  have hresolve : (∃ mode, a.newline.resolve = .ok mode) ↔
      (∃ mode, a.newline = .policy mode) ∨
        ∃ name mode, a.newline = .named (.text name) ∧ NewlineMode.IsNamedBy mode name := by
    rw [exists_comm]
    simp only [NewlineChoice.resolve_eq_ok_iff, exists_or]
  rw [← hverbosity, ← hresolve, ← hnewline]
  constructor
  · rintro ⟨husable, hresolves⟩
    exact ⟨husable, hresolves⟩
  · rintro ⟨husable, hresolves⟩
    exact ⟨husable, hresolves⟩

end Arguments

namespace Overrides

variable {given : Overrides}

theorem wellFormed_empty : WellFormed {} where
  verbosity := by
    intro value hvalue
    cases hvalue
  newline := by
    intro choice hchoice
    cases hchoice

/-- Either all can be used, or there is a first setting for which something cannot. -/
theorem wellFormed_or_firstFails (given : Overrides) :
    given.WellFormed ∨ ∃ s error, given.FirstFails s error := by
  obtain hverbosity | ⟨value, failure, hvalue, hfailure⟩ :=
    usable_or_fails Value.toInteger given.verbosity
  · have hbefore : (given.before .newline).WellFormed := by
      refine ⟨hverbosity, ?_⟩
      intro choice hchoice
      cases hchoice
    obtain hnewline | ⟨choice, error, hchoice, herror⟩ :=
      usable_or_fails NewlineChoice.resolve given.newline
    · exact .inl ⟨hverbosity, hnewline⟩
    · exact .inr ⟨.newline, error, .newline hchoice herror, hbefore⟩
  · exact .inr ⟨.verbosity, .verbosity failure, .verbosity hvalue hfailure, wellFormed_empty⟩

/-- The line break policy comes before nothing. -/
theorem newline_layer_before (given : Overrides) (s : Setting) :
    (given.before s).layer.newline = none := by
  cases s <;> rfl

end Overrides

/-! ## Overriding -/

variable {l : Layer} {given : Overrides}

/-- What is read of something that can be used. -/
theorem mapM_eq_ok {α β ε : Type} {f : α → Except ε β} {o : Option α}
    (h : ∀ a, o = some a → ∃ b, f a = .ok b) :
    o.mapM f = .ok (o.bind fun a => (f a).toOption) := by
  cases o with
  | none => rfl
  | some a =>
    obtain ⟨b, hb⟩ := h a rfl
    rw [Option.mapM_some, hb, Option.bind_some, hb]
    rfl

/-- If all that is given can be used, it is merged. -/
theorem override_of_wellFormed (l : Layer) (h : given.WellFormed) :
    l.override given = (l.merge given.layer, none) := by
  rw [override, mapM_eq_ok h.verbosity, mapM_eq_ok h.newline, merge, Overrides.layer]
  simp only [List.append_nil]

/-- If something cannot be used, what is given before it is merged. -/
theorem override_of_firstFails (l : Layer) {s : Setting} {error : OverrideError}
    (h : given.FirstFails s error) :
    l.override given = (l.merge (given.before s).layer, some error) := by
  obtain ⟨hfails, hbefore⟩ := h
  cases hfails with
  | verbosity hvalue hfailure =>
    have hnothing : l.merge (given.before .verbosity).layer = l := l.merge_empty
    rw [override, hvalue, Option.mapM_some, hfailure, hnothing]
    rfl
  | newline hchoice herror =>
    have hverbosity : given.verbosity.mapM Value.toInteger =
        .ok (given.verbosity.bind fun value => value.toInteger.toOption) :=
      mapM_eq_ok hbefore.verbosity
    rw [override, hverbosity, hchoice, Option.mapM_some, herror, merge, Overrides.layer,
      Overrides.before]
    simp only [List.append_nil]
    rfl

/-- Whatever is given, what is put into a layer is another without files that is merged over it, and
with no line break policy if something cannot be used. -/
theorem exists_override_eq_merge (given : Overrides) :
    ∃ upper error, (∀ l : Layer, l.override given = (l.merge upper, error)) ∧
      upper.files = [] ∧ (error = none ∨ upper.newline = none) := by
  obtain h | ⟨s, error, h⟩ := given.wellFormed_or_firstFails
  · exact ⟨given.layer, none, fun l => override_of_wellFormed l h, rfl, .inl rfl⟩
  · exact ⟨(given.before s).layer, some error, fun l => override_of_firstFails l h, rfl,
      .inr (given.newline_layer_before s)⟩

/-- Giving the same again changes nothing. -/
theorem override_override (l : Layer) (given : Overrides) :
    (l.override given).1.override given = l.override given := by
  obtain ⟨upper, error, hoverride, hfiles, -⟩ := exists_override_eq_merge given
  rw [hoverride, hoverride, merge_merge_self hfiles]

theorem overridesByMerging (l : Layer) (a : Arguments) : l.OverridesByMerging a where
  wellFormed_iff := a.wellFormed_given_iff
  merges := override_of_wellFormed l
  stops _ _ := override_of_firstFails l
  ends := a.given.wellFormed_or_firstFails
  newline := by
    obtain ⟨upper, error, hoverride, -, hnewline⟩ := exists_override_eq_merge a.given
    rw [hoverride]
    intro e he
    obtain hnone | hnone := hnewline
    · rw [hnone] at he
      cases he
    · rw [merge, hnone, Option.none_or]
  files := by
    obtain ⟨upper, error, hoverride, hfiles, -⟩ := exists_override_eq_merge a.given
    rw [hoverride, merge, hfiles, List.append_nil]
  again := override_override l a.given

/-- Layers are merged as they should be, and overriding a layer is merging. -/
theorem mergesAndOverrides :
    (∀ lower middle upper : Layer,
      (lower.merge middle).merge upper = lower.merge (middle.merge upper)) ∧
    (∀ l : Layer, merge {} l = l ∧ l.merge {} = l) ∧
    ∀ (l : Layer) (a : Arguments), l.OverridesByMerging a :=
  ⟨merge_assoc, fun l => ⟨l.empty_merge, l.merge_empty⟩, overridesByMerging⟩

end Layer

end LinePipe
