import LinePipe.Command.Registry
import LinePipe.Proofs.Outcome
import Mathlib.Data.List.Nodup

/-!
# Registries

A registry is made of commands with different names. Of commands of which two share a name nothing
is made, and it is told which name is the first to come again. All that can be asked of a registry
is answered from the commands of which it was made. As their names are different, a name belongs to
one of them at most, and a stage is built for a name by the command to which it belongs.

## Main definitions

- `Registry.FirstRepeated`: the name of the first command that has the name of one before it
- `Registry.Shows`: a registry answers all questions from the same commands
- `Registry.Represents`: what is made of commands

## Main statements

- `firstRepeat?_eq_none_iff`, `firstRepeat?_eq_some_iff`: the first text that occurs again
- `Registry.get?_eq_some_iff`: a name belongs to one command at most
- `Registry.result_build`: building a stage is left to the command of the name
- `Registry.represents`: a registry that shows the commands, or the name that is told
-/

namespace LinePipe

/-! ## Texts that occur again -/

theorem firstRepeat?_cons (seen : List Text) (t : Text) (rest : List Text) :
    firstRepeat? seen (t :: rest) = if t ∈ seen then some t else firstRepeat? (t :: seen) rest := by
  rw [firstRepeat?]
  simp only [List.elem_eq_mem, decide_eq_true_eq]

/-- Texts are new if they are different and none of them was seen before. One more is new if it was
not seen before and the others are new once it has been seen. -/
theorem new_cons_iff {seen rest : List Text} {t : Text} :
    ((t :: rest).Nodup ∧ ∀ u ∈ t :: rest, u ∉ seen) ↔
      t ∉ seen ∧ rest.Nodup ∧ ∀ u ∈ rest, u ∉ t :: seen := by
  rw [List.nodup_cons, List.forall_mem_cons]
  simp only [List.mem_cons, not_or]
  constructor
  · rintro ⟨⟨ht, hrest⟩, htnew, hnew⟩
    refine ⟨htnew, hrest, fun u hu => ⟨?_, hnew u hu⟩⟩
    rintro rfl
    exact ht hu
  · rintro ⟨htnew, hrest, hnew⟩
    exact ⟨⟨fun ht => (hnew t ht).1 rfl, hrest⟩, htnew, fun u hu => (hnew u hu).2⟩

/-- No text occurs again if all are new. -/
theorem firstRepeat?_eq_none_iff {seen texts : List Text} :
    firstRepeat? seen texts = none ↔ texts.Nodup ∧ ∀ t ∈ texts, t ∉ seen := by
  induction texts generalizing seen with
  | nil => simp [firstRepeat?]
  | cons t rest ih =>
    rw [firstRepeat?_cons, new_cons_iff, ← ih]
    by_cases ht : t ∈ seen
    · simp [ht]
    · simp [ht]

/-- The first text that occurs again comes behind texts that are new, and it was seen before or is
one of them. -/
theorem firstRepeat?_eq_some_iff {seen texts : List Text} {t : Text} :
    firstRepeat? seen texts = some t ↔ ∃ before after, texts = before ++ t :: after ∧
      (before.Nodup ∧ ∀ u ∈ before, u ∉ seen) ∧ (t ∈ seen ∨ t ∈ before) := by
  induction texts generalizing seen with
  | nil => simp [firstRepeat?]
  | cons u rest ih =>
    rw [firstRepeat?_cons]
    constructor
    · intro h
      by_cases hu : u ∈ seen
      · rw [if_pos hu, Option.some.injEq] at h
        subst h
        exact ⟨[], rest, rfl, ⟨List.nodup_nil, List.forall_mem_nil _⟩, .inl hu⟩
      · rw [if_neg hu, ih] at h
        obtain ⟨before, after, rfl, hbefore, ht⟩ := h
        refine ⟨u :: before, after, rfl, new_cons_iff.mpr ⟨hu, hbefore⟩, ?_⟩
        simp only [List.mem_cons] at ht ⊢
        tauto
    · rintro ⟨before, after, htexts, hbefore, ht⟩
      cases before with
      | nil =>
        obtain ⟨rfl, rfl⟩ := List.cons.inj htexts
        rw [if_pos (ht.resolve_right List.not_mem_nil)]
      | cons v before =>
        obtain ⟨rfl, rfl⟩ := List.cons.inj htexts
        obtain ⟨hu, hbefore⟩ := new_cons_iff.mp hbefore
        rw [if_neg hu, ih]
        refine ⟨before, after, rfl, hbefore, ?_⟩
        simp only [List.mem_cons] at ht ⊢
        tauto

namespace Registry

/-! ## Questions to a registry -/

/-- The name of the first command that has the name of one before it. -/
def FirstRepeated (commands : List Command) (name : Text) : Prop :=
  ∃ before command after, commands = before ++ command :: after ∧ command.info.name = name ∧
    (∃ earlier ∈ before, earlier.info.name = name) ∧ (before.map fun c => c.info.name).Nodup

/-- A registry answers all questions from the same commands. -/
structure Shows (r : Registry) (commands : List Command) : Prop where
  commands_eq : r.commands = commands
  catalog : r.catalog = commands.map Command.info
  names : r.names = commands.map fun command => command.info.name
  size : r.size = commands.length
  toList : r.toList = commands.map fun command => (command.info.name, command)
  get? : ∀ name command, r.get? name = some command ↔
    command ∈ commands ∧ command.info.name = name
  lookup : ∀ name command, r.toList.lookup name = some command ↔
    command ∈ commands ∧ command.info.name = name
  contains : ∀ name, r.contains name = true ↔ ∃ command ∈ commands, command.info.name = name
  /-- For a name that no command has, building tells the name and the position. -/
  unknown : ∀ name arguments settings position, (∀ command ∈ commands, command.info.name ≠ name) →
    (r.build name arguments settings position).result =
      .error (.rejected (.unknownCommand name position))
  /-- For the name of a command, building ends as the command does. -/
  known : ∀ command arguments settings position, command ∈ commands →
    (r.build command.info.name arguments settings position).result =
      command.build arguments (r.fillSettings settings)

/-- What is made of commands is a registry that shows them, or, if two of them share a name, nothing
but a complaint about the first name to come again. -/
structure Represents (commands : List Command) : Prop where
  refused_iff : (∃ name, ofCommands commands = .error name) ↔
    ¬ (commands.map fun command => command.info.name).Nodup
  refused : ∀ name, ofCommands commands = .error name ↔ FirstRepeated commands name
  shows : ∀ r, ofCommands commands = .ok r → r.Shows commands

theorem nodup_names (r : Registry) : (r.commands.map fun c => c.info.name).Nodup :=
  (firstRepeat?_eq_none_iff.mp r.distinct).1

/-- A name belongs to one command at most, which is found by it. -/
theorem get?_eq_some_iff {r : Registry} {name : Text} {command : Command} :
    r.get? name = some command ↔ command ∈ r.commands ∧ command.info.name = name := by
  rw [get?]
  constructor
  · intro h
    exact ⟨List.mem_of_find?_eq_some h, by simpa using List.find?_some h⟩
  · rintro ⟨hmem, rfl⟩
    obtain ⟨before, after, hcommands⟩ := List.append_of_mem hmem
    have hnodup := r.nodup_names
    rw [hcommands, List.map_append, List.map_cons, List.nodup_append] at hnodup
    rw [List.find?_eq_some_iff_append]
    refine ⟨beq_self_eq_true _, before, after, hcommands, fun earlier hearlier => ?_⟩
    have hother := hnodup.2.2 earlier.info.name (List.mem_map_of_mem hearlier) _
      List.mem_cons_self
    simpa using hother

theorem get?_eq_none_iff {r : Registry} {name : Text} :
    r.get? name = none ↔ ∀ command ∈ r.commands, command.info.name ≠ name := by
  rw [get?, List.find?_eq_none]
  simp only [beq_iff_eq, ne_eq]

/-- A command is found under its name as it is found by it. -/
theorem lookup_toList (r : Registry) (name : Text) : r.toList.lookup name = r.get? name := by
  rw [toList, get?]
  induction r.commands with
  | nil => rfl
  | cons command rest ih =>
    rw [List.map_cons, List.lookup_cons, List.find?_cons, ih, BEq.comm]

/-- Building a stage is left to the command of the name. -/
theorem result_build (r : Registry) (name : Text) (arguments : List Text)
    (settings : Option StageSettings) (position : Option Int) :
    (r.build name arguments settings position).result =
      match r.get? name with
      | none => .error (.rejected (.unknownCommand name position))
      | some command => command.build arguments (r.fillSettings settings) := by
  rw [build]
  cases r.get? name with
  | none => rfl
  | some command =>
    simp only [Outcome.result_bind, Outcome.result_ofExcept, Outcome.result_log,
      Outcome.result_pure]
    cases command.build arguments (r.fillSettings settings) <;> rfl

theorem shows_commands (r : Registry) : r.Shows r.commands where
  commands_eq := rfl
  catalog := rfl
  names := by rw [names, catalog, List.map_map]; rfl
  size := rfl
  toList := rfl
  get? _ _ := get?_eq_some_iff
  lookup name command := by rw [lookup_toList, get?_eq_some_iff]
  contains name := by
    rw [contains, Option.isSome_iff_exists]
    simp only [get?_eq_some_iff]
  unknown name arguments settings position h := by
    rw [result_build, get?_eq_none_iff.mpr h]
  known command arguments settings position h := by
    rw [result_build, get?_eq_some_iff.mpr ⟨h, rfl⟩]

/-! ## Making a registry -/

/-- The commands of a registry are those of which it was made. -/
theorem ofCommands_eq_ok_iff {commands : List Command} {r : Registry} :
    ofCommands commands = .ok r ↔ r.commands = commands := by
  rw [ofCommands]
  constructor
  · intro h
    split at h
    · cases h
      rfl
    · cases h
  · rintro rfl
    split
    · rfl
    · rename_i name hname
      rw [r.distinct] at hname
      cases hname

theorem ofCommands_eq_error_iff {commands : List Command} {name : Text} :
    ofCommands commands = .error name ↔
      firstRepeat? [] (commands.map fun c => c.info.name) = some name := by
  rw [ofCommands]
  split
  · rename_i hnone
    simp [hnone]
  · rename_i other hother
    simp [hother]

/-- The name that is told is the first to come again. -/
theorem firstRepeat?_names_iff {commands : List Command} {name : Text} :
    firstRepeat? [] (commands.map fun c => c.info.name) = some name ↔
      FirstRepeated commands name := by
  rw [firstRepeat?_eq_some_iff]
  constructor
  · rintro ⟨before, after, hnames, ⟨hbefore, -⟩, hname⟩
    obtain ⟨before, rest, rfl, rfl, hrest⟩ := List.map_eq_append_iff.mp hnames
    obtain ⟨command, after, rfl, hcommand, rfl⟩ := List.map_eq_cons_iff.mp hrest
    obtain ⟨earlier, hearlier, hsame⟩ := List.mem_map.mp (hname.resolve_left List.not_mem_nil)
    exact ⟨before, command, after, rfl, hcommand, ⟨earlier, hearlier, hsame⟩, hbefore⟩
  · rintro ⟨before, command, after, rfl, rfl, ⟨earlier, hearlier, hsame⟩, hbefore⟩
    refine ⟨before.map fun c => c.info.name, after.map fun c => c.info.name, ?_,
      ⟨hbefore, fun _ _ => List.not_mem_nil⟩, .inr ?_⟩
    · rw [List.map_append, List.map_cons]
    · exact List.mem_map.mpr ⟨earlier, hearlier, hsame⟩

/-- Of any commands a registry is made that shows them, or the first name to come again is told. -/
theorem represents (commands : List Command) : Represents commands where
  refused_iff := by
    have hnew := @firstRepeat?_eq_none_iff [] (commands.map fun c => c.info.name)
    simp only [List.not_mem_nil, not_false_eq_true, implies_true, and_true] at hnew
    rw [← hnew, ← ne_eq, Option.ne_none_iff_exists']
    simp only [ofCommands_eq_error_iff]
  refused name := by rw [ofCommands_eq_error_iff, firstRepeat?_names_iff]
  shows r h := by
    rw [← ofCommands_eq_ok_iff.mp h]
    exact r.shows_commands

end Registry

end LinePipe
