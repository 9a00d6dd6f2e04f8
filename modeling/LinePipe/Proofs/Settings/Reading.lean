import LinePipe.Proofs.Outcome
import LinePipe.Settings.Layer

/-!
# Reading a table of settings

A table of settings is accepted if each setting is unset or of the right kind, and if the line break
policy, where it is set, has one of the three names, in any case and with whitespace around it. Then
the layer sets exactly what the table sets. Otherwise the first flaw is told, in the order in which
the settings are looked at, the name of the line break policy being the last. Nothing else in the
table decides anything, and neither does what it says about the root.

## Main definitions

- `SettingKind.Fits`: a value is of a kind
- `Table.WellTyped`: a table that is accepted
- `Layer.Holds`: a layer sets what a table sets
- `Flaw.order`, `FirstShown`: what may be wrong with a table, and which flaw of it is told
- `Table.SetsAlike`: two tables have the same settings
- `Table.IsReadByKind`: what comes of reading a table

## Main statements

- `Table.setting?_eq_ok_iff`, `Table.setting?_eq_error_iff`: reading one setting
- `Layer.read_eq_ok_iff`, `Layer.read_eq_error_iff`: reading all of them
- `Layer.read_congr`: nothing but the settings decides
- `Table.isReadByKind`: this for every table
-/

namespace LinePipe

/-! ## Kinds of values and names of policies -/

/-- A value is of a kind. A truth value is no integer. -/
def SettingKind.Fits : SettingKind → Value → Prop
  | .text, value => ∃ t, value = .text t
  | .integer, value => ∃ n, value = .integer n
  | .boolean, value => ∃ b, value = .boolean b

/-- Values are read as those of a kind, which are made in one way from what they hold. -/
structure Value.ReadsKind {α : Type} (kind : SettingKind) (make : α → Value)
    (holds : Value → Option α) : Prop where
  holds_iff : ∀ value a, holds value = some a ↔ value = make a
  fits_iff : ∀ value, kind.Fits value ↔ ∃ a, value = make a

namespace Value

theorem readsKind_text : ReadsKind .text Value.text Value.text? where
  holds_iff value _ := by cases value <;> simp [text?]
  fits_iff _ := Iff.rfl

theorem readsKind_integer : ReadsKind .integer Value.integer Value.integer? where
  holds_iff value _ := by cases value <;> simp [integer?]
  fits_iff _ := Iff.rfl

theorem readsKind_boolean : ReadsKind .boolean Value.boolean Value.boolean? where
  holds_iff value _ := by cases value <;> simp [boolean?]
  fits_iff _ := Iff.rfl

/-- What is of another kind holds nothing of this one. -/
theorem ReadsKind.holds_eq_none_iff {α : Type} {kind : SettingKind} {make : α → Value}
    {holds : Value → Option α} (h : ReadsKind kind make holds) {value : Value} :
    holds value = none ↔ ¬ kind.Fits value := by
  rw [h.fits_iff, Option.eq_none_iff_forall_ne_some, not_exists]
  simp only [ne_eq, h.holds_iff]

end Value

namespace NewlineMode

/-- A text names a line break policy, in any case and with whitespace around the name. -/
def IsNamedBy (mode : NewlineMode) (value : Text) : Prop :=
  Text.lower (Text.strip value) = mode.name

theorem name_inj {mode mode' : NewlineMode} (h : mode.name = mode'.name) : mode = mode' := by
  cases mode <;> cases mode' <;> first | rfl | exact absurd h (by decide)

theorem ofName?_eq_some_iff {value : Text} {mode : NewlineMode} :
    ofName? value = some mode ↔ mode.IsNamedBy value := by
  have hname {found : NewlineMode} (h : ofName? value = some found) : found.IsNamedBy value := by
    have hfound := List.find?_some h
    exact (beq_iff_eq.mp hfound).symm
  constructor
  · exact hname
  · intro h
    cases hfound : ofName? value with
    | none =>
      -- Every policy is among those that are tried.
      have hmem : mode ∈ all := by cases mode <;> decide
      rw [ofName?, List.find?_eq_none] at hfound
      exact absurd (beq_iff_eq.mpr h.symm) (hfound mode hmem)
    | some found => rw [name_inj ((hname hfound).symm.trans h)]

theorem parse_eq_ok_iff {value : Text} {mode : NewlineMode} :
    parse value = .ok mode ↔ mode.IsNamedBy value := by
  rw [parse, ← ofName?_eq_some_iff]
  cases ofName? value <;> simp

theorem parse_eq_error_iff {value : Text} {error : SettingsError} :
    parse value = .error error ↔ (∀ mode, ¬ IsNamedBy mode value) ∧ error = .newlineName value := by
  simp only [parse, ← ofName?_eq_some_iff]
  cases ofName? value <;> simp [eq_comm]

end NewlineMode

/-! ## Tables and layers -/

/-- The settings of a table are unset or of the right kinds, and the line break policy is one. -/
structure Table.WellTyped (table : Table) : Prop where
  newline : ∀ value, table.value? SettingKey.newline = some value → SettingKind.text.Fits value
  verbosity : ∀ value, table.value? SettingKey.verbosity = some value →
    SettingKind.integer.Fits value
  locale : ∀ value, table.value? SettingKey.locale = some value → SettingKind.text.Fits value
  numeric : ∀ value, table.value? SettingKey.numeric = some value → SettingKind.boolean.Fits value
  policy : ∀ name, table.value? SettingKey.newline = some (.text name) →
    ∃ mode : NewlineMode, mode.IsNamedBy name

/-- A layer sets what a table sets, and leaves open what the table leaves open. It knows where the
table comes from. -/
structure Layer.Holds (l : Layer) (table : Table) (source : Option Path) : Prop where
  verbosity : table.value? SettingKey.verbosity = l.verbosity.map Value.integer
  locale : table.value? SettingKey.locale = l.locale.map Value.text
  numeric : table.value? SettingKey.numeric = l.numeric.map Value.boolean
  newline : ∃ name : Option Text, table.value? SettingKey.newline = name.map Value.text ∧
    Option.Rel NewlineMode.IsNamedBy l.newline name
  files : l.files = source.toList

/-- What may be wrong with the settings of a table. -/
inductive Flaw where
  /-- The value of a key is of another kind than wanted. -/
  | kind (key : Text) (wanted : SettingKind)
  /-- The line break policy has none of the names. -/
  | policyName

/-- The flaws in the order in which they are looked for. -/
def Flaw.order : List Flaw :=
  [.kind SettingKey.newline .text, .kind SettingKey.verbosity .integer,
    .kind SettingKey.locale .text, .kind SettingKey.numeric .boolean, .policyName]

/-- A table has a flaw, which is told by an error. -/
inductive Flaw.Shown (table : Table) : Flaw → SettingsError → Prop
  | kind {key : Text} {wanted : SettingKind} {value : Value}
      (hvalue : table.value? key = some value) (hkind : ¬ wanted.Fits value) :
      Shown table (.kind key wanted) (.wrongKind key wanted value.kind)
  | policyName {name : Text} (hname : table.value? SettingKey.newline = some (.text name))
      (hpolicy : ∀ mode : NewlineMode, ¬ mode.IsNamedBy name) :
      Shown table .policyName (.newlineName name)

/-- The first of some flaws that a table has is told by an error. -/
inductive FirstShown (table : Table) : List Flaw → SettingsError → Prop
  | here {flaw : Flaw} {rest : List Flaw} {error : SettingsError} (h : flaw.Shown table error) :
      FirstShown table (flaw :: rest) error
  | later {flaw : Flaw} {rest : List Flaw} {error : SettingsError}
      (hnone : ∀ e, ¬ flaw.Shown table e) (h : FirstShown table rest error) :
      FirstShown table (flaw :: rest) error

/-- A key under which a setting stands. What is said about the root is no setting. -/
def SettingKey.IsSetting (key : Text) : Prop :=
  key ∈ SettingKey.known ∧ key ≠ SettingKey.root

instance (key : Text) : Decidable (SettingKey.IsSetting key) :=
  inferInstanceAs (Decidable (_ ∧ _))

/-- What is told about the kind of a value is told about a setting. -/
theorem Flaw.isSetting_of_mem_order {key : Text} {kind : SettingKind}
    (h : Flaw.kind key kind ∈ Flaw.order) : SettingKey.IsSetting key := by
  simp only [order, List.mem_cons, Flaw.kind.injEq, reduceCtorEq, List.not_mem_nil, or_false] at h
  obtain ⟨rfl, -⟩ | ⟨rfl, -⟩ | ⟨rfl, -⟩ | ⟨rfl, -⟩ := h
  all_goals decide

/-- Two tables have the same settings. -/
def Table.SetsAlike (table table' : Table) : Prop :=
  ∀ key, SettingKey.IsSetting key → table'.value? key = table.value? key

/-- A table of settings is read by the kinds of its values. -/
structure Table.IsReadByKind (table : Table) (source : Option Path) : Prop where
  /-- It is accepted exactly if it is well typed. -/
  accepted_iff : (∃ l, (Layer.ofTable table source).result = .ok l) ↔ table.WellTyped
  /-- The layer sets what the table sets. -/
  holds : ∀ l, (Layer.ofTable table source).result = .ok l ↔ l.Holds table source
  /-- The first flaw is told. -/
  refused : ∀ error, (Layer.ofTable table source).result = .error error ↔
    FirstShown table Flaw.order error
  /-- Only the settings decide. -/
  congr : ∀ table', table.SetsAlike table' →
    (Layer.ofTable table' source).result = (Layer.ofTable table source).result
  /-- Entries that are no settings may be put in, left out and moved. -/
  ignores : ∀ table' : Table,
    (table'.filter fun entry => SettingKey.IsSetting entry.1) =
      (table.filter fun entry => SettingKey.IsSetting entry.1) →
    (Layer.ofTable table' source).result = (Layer.ofTable table source).result

/-! ## One setting -/

section

variable {α : Type} {table : Table} {kind : SettingKind} {make : α → Value}
  {holds : Value → Option α} {key : Text}

/-- A setting is read if it is unset, or if its value is of the kind wanted. -/
theorem Table.setting?_eq_ok_iff (h : Value.ReadsKind kind make holds) {o : Option α} :
    table.setting? kind holds key = .ok o ↔ table.value? key = o.map make := by
  rw [setting?]
  cases table.value? key with
  | none => cases o <;> simp
  | some value =>
    dsimp only
    cases o with
    | none => cases holds value <;> simp
    | some a =>
      rw [Option.map_some, Option.some.injEq, ← h.holds_iff]
      cases holds value <;> simp

/-- It is refused if it has a value of another kind. -/
theorem Table.setting?_eq_error_iff (h : Value.ReadsKind kind make holds) {error : SettingsError} :
    table.setting? kind holds key = .error error ↔ (Flaw.kind key kind).Shown table error := by
  rw [setting?]
  constructor
  · intro herror
    split at herror
    · cases herror
    · rename_i value hvalue
      cases hholds : holds value with
      | some a =>
        rw [hholds] at herror
        cases herror
      | none =>
        rw [hholds] at herror
        cases herror
        exact .kind hvalue (h.holds_eq_none_iff.mp hholds)
  · rintro ⟨hvalue, hkind⟩
    simp only [hvalue, h.holds_eq_none_iff.mpr hkind]

end

/-! ## The name of a line break policy -/

namespace NewlineMode

variable {policy : Option Text}

theorem mapM_parse_eq_ok_iff {newline : Option NewlineMode} :
    policy.mapM parse = .ok newline ↔ Option.Rel IsNamedBy newline policy := by
  cases policy with
  | none =>
    rw [Option.mapM_none]
    constructor
    · intro h
      cases h
      exact .none
    · intro h
      cases h
      rfl
  | some name =>
    rw [Option.mapM_some]
    constructor
    · intro h
      obtain ⟨mode, hmode, rfl⟩ := except_map_eq_ok_iff.mp h
      exact .some (parse_eq_ok_iff.mp hmode)
    · intro h
      cases h with
      | some hmode => exact except_map_eq_ok_iff.mpr ⟨_, parse_eq_ok_iff.mpr hmode, rfl⟩

theorem bind_ofName?_of_rel {newline : Option NewlineMode}
    (h : Option.Rel IsNamedBy newline policy) : policy.bind ofName? = newline := by
  cases h with
  | none => rfl
  | some hmode => exact ofName?_eq_some_iff.mpr hmode

theorem mapM_parse_eq_error_iff {table : Table} {error : SettingsError}
    (hpolicy : table.value? SettingKey.newline = policy.map Value.text) :
    policy.mapM parse = .error error ↔ Flaw.policyName.Shown table error := by
  cases policy with
  | none =>
    rw [Option.mapM_none]
    refine iff_of_false (by rintro ⟨⟩) ?_
    rintro (_ | ⟨hname, hnone⟩)
    rw [hpolicy] at hname
    cases hname
  | some name =>
    rw [Option.mapM_some]
    refine except_map_eq_error_iff.trans (parse_eq_error_iff.trans ?_)
    constructor
    · rintro ⟨hnone, rfl⟩
      exact .policyName hpolicy hnone
    · rintro (_ | ⟨hname, hnone⟩)
      rw [hpolicy] at hname
      cases hname
      exact ⟨hnone, rfl⟩

end NewlineMode

/-! ## All settings -/

theorem firstShown_cons_iff {table : Table} {flaw : Flaw} {rest : List Flaw}
    {error : SettingsError} :
    FirstShown table (flaw :: rest) error ↔
      flaw.Shown table error ∨ (∀ e, ¬ flaw.Shown table e) ∧ FirstShown table rest error := by
  constructor
  · intro h
    cases h with
    | here h => exact .inl h
    | later hnone h => exact .inr ⟨hnone, h⟩
  · rintro (h | ⟨hnone, h⟩)
    · exact .here h
    · exact .later hnone h

theorem FirstShown.exists_mem {table : Table} {flaws : List Flaw} {error : SettingsError}
    (h : FirstShown table flaws error) : ∃ flaw ∈ flaws, flaw.Shown table error := by
  induction h with
  | here h => exact ⟨_, List.mem_cons_self, h⟩
  | later _ _ ih =>
    obtain ⟨flaw, hmem, hshown⟩ := ih
    exact ⟨flaw, List.mem_cons_of_mem _ hmem, hshown⟩

/-- A check for one flaw comes before the checks for the rest. -/
theorem check_bind_eq_error_iff {α β : Type} {table : Table} {flaw : Flaw} {rest : List Flaw}
    {x : Except SettingsError α} {f : α → Except SettingsError β} {error : SettingsError}
    (hx : ∀ e, x = .error e ↔ flaw.Shown table e)
    (hf : ∀ a, x = .ok a → (f a = .error error ↔ FirstShown table rest error)) :
    (x >>= f) = .error error ↔ FirstShown table (flaw :: rest) error := by
  rw [firstShown_cons_iff, except_bind_eq_error_iff, hx]
  cases x with
  | error e =>
    have hshown := (hx e).mp rfl
    simp [show ¬ ∀ e, ¬ flaw.Shown table e from fun hnone => hnone e hshown]
  | ok a =>
    have hnone : ∀ e, ¬ flaw.Shown table e := fun e he => by simpa using (hx e).mpr he
    simp [hnone, hf a rfl]

namespace Table

variable {table : Table}

/-- A table that is well typed has no flaw. -/
theorem WellTyped.not_shown (h : table.WellTyped) {flaw : Flaw} (hflaw : flaw ∈ Flaw.order)
    {error : SettingsError} : ¬ flaw.Shown table error := by
  simp only [Flaw.order, List.mem_cons, List.not_mem_nil, or_false] at hflaw
  obtain rfl | rfl | rfl | rfl | rfl := hflaw
  · rintro ⟨hvalue, hkind⟩
    exact hkind (h.newline _ hvalue)
  · rintro ⟨hvalue, hkind⟩
    exact hkind (h.verbosity _ hvalue)
  · rintro ⟨hvalue, hkind⟩
    exact hkind (h.locale _ hvalue)
  · rintro ⟨hvalue, hkind⟩
    exact hkind (h.numeric _ hvalue)
  · rintro (_ | ⟨hname, hnone⟩)
    obtain ⟨mode, hmode⟩ := h.policy _ hname
    exact hnone mode hmode

theorem lookup_filter_isSetting {key : Text} (hkey : SettingKey.IsSetting key) (table : Table) :
    (table.filter fun entry => SettingKey.IsSetting entry.1).lookup key = table.lookup key := by
  induction table with
  | nil => rfl
  | cons entry rest ih =>
    obtain ⟨other, value⟩ := entry
    by_cases hother : SettingKey.IsSetting other
    · rw [List.filter_cons_of_pos (by simpa using hother), List.lookup_cons, List.lookup_cons, ih]
    · -- An entry that is left out stands under another key.
      have hne : (key == other) = false := by
        rw [beq_eq_false_iff_ne]
        rintro rfl
        exact hother hkey
      rw [List.filter_cons_of_neg (by simpa using hother), List.lookup_cons, hne, ih]

/-- Tables that differ in other entries only have the same settings. -/
theorem setsAlike_of_filter_eq {table' : Table}
    (h : (table'.filter fun entry => SettingKey.IsSetting entry.1) =
      table.filter fun entry => SettingKey.IsSetting entry.1) : table.SetsAlike table' := by
  intro key hkey
  rw [value?, value?, ← lookup_filter_isSetting hkey table, ← lookup_filter_isSetting hkey table',
    h]

theorem fits_of_value?_eq {α : Type} {kind : SettingKind} {make : α → Value}
    {holds : Value → Option α} (hreads : Value.ReadsKind kind make holds) {key : Text}
    {o : Option α} (h : table.value? key = o.map make) {value : Value}
    (hvalue : table.value? key = some value) : kind.Fits value := by
  rw [h] at hvalue
  obtain ⟨a, -, rfl⟩ := Option.map_eq_some_iff.mp hvalue
  exact (hreads.fits_iff _).mpr ⟨a, rfl⟩

end Table

namespace Layer

variable {table : Table} {source : Option Path} {l : Layer}

/-- Only from a table that is well typed a layer can hold what it sets. -/
theorem Holds.wellTyped (h : l.Holds table source) : table.WellTyped := by
  obtain ⟨policy, hpolicy, hnewline⟩ := h.newline
  generalize l.newline = newline at hnewline
  exact {
    newline := fun _ => Table.fits_of_value?_eq Value.readsKind_text hpolicy
    verbosity := fun _ => Table.fits_of_value?_eq Value.readsKind_integer h.verbosity
    locale := fun _ => Table.fits_of_value?_eq Value.readsKind_text h.locale
    numeric := fun _ => Table.fits_of_value?_eq Value.readsKind_boolean h.numeric
    policy := by
      intro name hname
      rw [hpolicy] at hname
      obtain ⟨_, rfl, hsame⟩ := Option.map_eq_some_iff.mp hname
      cases hsame
      cases hnewline with
      | some hmode => exact ⟨_, hmode⟩ }

/-- A table is read if a layer holds what it sets, and then this layer is what is read. -/
theorem read_eq_ok_iff : read table source = .ok l ↔ l.Holds table source := by
  simp only [read, except_bind_eq_ok_iff, Table.text?, Table.integer?, Table.boolean?,
    Table.setting?_eq_ok_iff Value.readsKind_text,
    Table.setting?_eq_ok_iff Value.readsKind_integer,
    Table.setting?_eq_ok_iff Value.readsKind_boolean, NewlineMode.mapM_parse_eq_ok_iff]
  constructor
  · rintro ⟨policy, hpolicy, verbosity, hverbosity, locale, hlocale, numeric, hnumeric, newline,
      hnewline, hl⟩
    cases hl
    exact ⟨hverbosity, hlocale, hnumeric, ⟨policy, hpolicy, hnewline⟩, rfl⟩
  · rintro ⟨hverbosity, hlocale, hnumeric, ⟨policy, hpolicy, hnewline⟩, hfiles⟩
    refine ⟨policy, hpolicy, _, hverbosity, _, hlocale, _, hnumeric, _, hnewline, ?_⟩
    rw [← hfiles]
    rfl

/-- A table is refused for the first of its flaws. -/
theorem read_eq_error_iff {error : SettingsError} :
    read table source = .error error ↔ FirstShown table Flaw.order error := by
  unfold read Flaw.order
  refine check_bind_eq_error_iff
    (fun _ => Table.setting?_eq_error_iff Value.readsKind_text) fun policy hpolicy => ?_
  refine check_bind_eq_error_iff
    (fun _ => Table.setting?_eq_error_iff Value.readsKind_integer) fun verbosity _ => ?_
  refine check_bind_eq_error_iff
    (fun _ => Table.setting?_eq_error_iff Value.readsKind_text) fun locale _ => ?_
  refine check_bind_eq_error_iff
    (fun _ => Table.setting?_eq_error_iff Value.readsKind_boolean) fun numeric _ => ?_
  have hpolicy := (Table.setting?_eq_ok_iff Value.readsKind_text).mp hpolicy
  refine check_bind_eq_error_iff
    (fun _ => NewlineMode.mapM_parse_eq_error_iff hpolicy) fun newline _ => ?_
  refine iff_of_false ?_ ?_
  · rintro ⟨⟩
  · rintro ⟨⟩

/-- Only the settings decide what comes of a table. -/
theorem read_congr {table' : Table} (h : table.SetsAlike table') (source : Option Path) :
    read table' source = read table source := by
  have hnewline := h SettingKey.newline (by decide)
  have hverbosity := h SettingKey.verbosity (by decide)
  have hlocale := h SettingKey.locale (by decide)
  have hnumeric := h SettingKey.numeric (by decide)
  simp only [read, Table.text?, Table.integer?, Table.boolean?, Table.setting?, hnewline,
    hverbosity, hlocale, hnumeric]

theorem exists_read_eq_ok_iff : (∃ l, read table source = .ok l) ↔ table.WellTyped := by
  constructor
  · rintro ⟨l, hl⟩
    exact (read_eq_ok_iff.mp hl).wellTyped
  · intro h
    cases hread : read table source with
    | ok l => exact ⟨l, rfl⟩
    | error error =>
      obtain ⟨flaw, hflaw, hshown⟩ := (read_eq_error_iff.mp hread).exists_mem
      exact absurd hshown (h.not_shown hflaw)

end Layer

/-- Every table of settings is read by the kinds of its values. -/
theorem Table.isReadByKind (table : Table) (source : Option Path) : table.IsReadByKind source where
  accepted_iff := Layer.exists_read_eq_ok_iff
  holds _ := Layer.read_eq_ok_iff
  refused _ := Layer.read_eq_error_iff
  congr _ h := Layer.read_congr h source
  ignores _ h := Layer.read_congr (Table.setsAlike_of_filter_eq h) source

end LinePipe
