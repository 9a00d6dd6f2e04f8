import LinePipe.Proofs.CommandLine.Verbosity
import LinePipe.Proofs.Log.Level

/-!
# The level that the environment asks for

The environment may name the level from which records are shown. Apart from messages a run ends as
it does without a level, unless the text that should name one cannot be read: then every command
breaks down.

## Main definitions

- `Invocation.withLevel`: an invocation with a text in the environment that should name a level
- `Completion.SameResult`: two runs leave the same behind, apart from messages
- `LevelIsHarmless`: a text that changes nothing but messages

## Main statements

- `Invocation.prepare_withLevel`: a level changes which records are shown
- `Invocation.run_of_trap`: a text that cannot be read makes commands break down
- `levelIsHarmless_iff`: the texts that are harmless
- `isRead_and_levelIsHarmless_iff`: they are those that are read as what they name
-/

namespace LinePipe.CommandLine

/-- Two runs leave the same behind, apart from messages. -/
structure Completion.SameResult (c c' : Completion) : Prop where
  ending : c.ending = c'.ending
  out : c.out = c'.out
  files : c.files = c'.files

theorem Completion.SameResult.refl (c : Completion) : c.SameResult c :=
  ⟨rfl, rfl, rfl⟩

namespace Invocation

/-- An invocation with a text in the environment that should name a level, or with none. -/
def withLevel (i : Invocation) (t : Option Text) : Invocation :=
  { i with environment := { i.environment with logLevel := t } }

variable {i : Invocation} {p : Preferences} {t : Text}

/-! ## Levels that are read -/

/-- A level changes which records are shown, and nothing else in how messages are shown. -/
theorem prepare_withLevel {said : Option Log.Level} (h : Log.Level.parse t = .ok said) :
    Display.prepare (i.withLevel (some t)) p =
      (Display.prepare (i.withLevel none) p).map fun d =>
        { d with filter := Log.Filter.setUp said none } := by
  simp only [Display.prepare, withLevel, h]
  cases Verbosity.ofCounts p.verbose p.quiet <;> rfl

theorem sameResult_finish {α : Type} (d d' : Display) (u u' : Option Text) (spec : CommandSpec)
    (work : Work α) {done done' : List Event → α → Completion}
    (h : ∀ es a, (done es a).SameResult (done' es a)) :
    ((i.withLevel u).finish d spec done work).SameResult
      ((i.withLevel u').finish d' spec done' work) := by
  rw [finish, finish]
  cases work.result with
  | error f => exact ⟨rfl, rfl, rfl⟩
  | ok a => exact h work.events a

/-- Which records are shown decides nothing but messages, and neither does the text that should name
a level once messages are prepared. -/
theorem sameResult_perform (d : Display) (filter : Log.Filter) (u u' : Option Text)
    (name : CommandName) (request : Request) :
    ((i.withLevel u).perform p { d with filter } name request).SameResult
      ((i.withLevel u').perform p d name request) := by
  cases request with
  | run r =>
    rw [perform, perform]
    exact sameResult_finish _ _ u u' _ (r.apply (i.withLevel u) p) fun _ _ => ⟨rfl, rfl, rfl⟩
  | check text format =>
    rw [perform, perform]
    exact sameResult_finish _ _ u u' _ (Report.check d.console i.registry d.verbosity format text)
      fun _ _ => ⟨rfl, rfl, rfl⟩
  | commands format => exact ⟨rfl, rfl, rfl⟩
  | help => exact ⟨rfl, rfl, rfl⟩
  | version format => exact ⟨rfl, rfl, rfl⟩

theorem sameResult_call {said : Option Log.Level} (h : Log.Level.parse t = .ok said)
    (name : CommandName) (arguments : List Text) :
    ((i.withLevel (some t)).call p name arguments).SameResult
      ((i.withLevel none).call p name arguments) := by
  rw [call, call, prepare_withLevel h]
  have hfiles : (i.withLevel (some t)).files = (i.withLevel none).files := rfl
  rw [hfiles]
  cases Display.prepare (i.withLevel none) p with
  | error f => exact ⟨rfl, rfl, rfl⟩
  | ok d =>
    simp only [Except.map]
    split
    · exact ⟨rfl, rfl, rfl⟩
    · exact ⟨rfl, rfl, rfl⟩
    · exact sameResult_perform d _ _ _ name _

/-- A level that is read changes nothing but messages. -/
theorem sameResult_run {said : Option Log.Level} (h : Log.Level.parse t = .ok said)
    (i : Invocation) : (i.withLevel (some t)).run.SameResult (i.withLevel none).run := by
  have hread : Preferences.read (i.withLevel (some t)).files (i.withLevel (some t)).arguments =
      Preferences.read (i.withLevel none).files (i.withLevel none).arguments := rfl
  rw [run, run, hread]
  split
  · exact ⟨rfl, rfl, rfl⟩
  · exact ⟨rfl, rfl, rfl⟩
  · rename_i p _
    rw [greet, greet, prepare_withLevel h]
    cases Display.prepare (i.withLevel none) p <;> exact ⟨rfl, rfl, rfl⟩
  · rename_i p word arguments _
    split
    · rw [refuse, refuse]
      exact .refl _
    · exact sameResult_call h _ arguments

/-! ## Texts that cannot be read -/

/-- A text that cannot be read makes commands break down. -/
theorem run_of_trap {name : CommandName} {request : Request} (htrap : Log.Level.Trap t)
    (hasks : i.Asks p name request) (hverbosity : ¬ (0 < p.verbose ∧ 0 < p.quiet)) :
    ∃ e, (i.withLevel (some t)).run.ending = .brokeDown (.numeral e) := by
  obtain ⟨e, he⟩ := Log.Level.parse_eq_error_iff.mpr htrap
  obtain ⟨word, arguments, hpreferences, hword, -⟩ := hasks
  have hprepare : Display.prepare (i.withLevel (some t)) p = .error (.broken (.numeral e)) := by
    have hcounts : (0 < (p.verbose : Int) && 0 < (p.quiet : Int)) = false := by
      simpa [Bool.eq_false_iff] using hverbosity
    simp only [Display.prepare, withLevel, he, Verbosity.ofCounts, gt_iff_lt, hcounts,
      Bool.false_eq_true, if_false, except_mapError_ok, except_mapError_error, bind, Except.bind]
  refine ⟨e, ?_⟩
  have hread : Preferences.read (i.withLevel (some t)).files (i.withLevel (some t)).arguments =
      .ok (.action (p, word :: arguments)) := hpreferences
  simp only [run, hread, hword, call, hprepare]
  rfl

end Invocation

/-- A text changes nothing but messages if it should name a level. -/
def LevelIsHarmless (t : Text) : Prop :=
  ∀ i : Invocation, (i.withLevel (some t)).run.SameResult (i.withLevel none).run

theorem levelIsHarmless_iff {t : Text} : LevelIsHarmless t ↔ ¬ Log.Level.Trap t := by
  constructor
  · intro h htrap
    let i : Invocation := { arguments := ["version".toList] }
    have hasks : i.Asks {} .version (.version .terminal) := ⟨_, _, rfl, rfl, rfl⟩
    obtain ⟨e, he⟩ := Invocation.run_of_trap htrap hasks (by decide)
    have hending := (h i).ending
    rw [he] at hending
    cases hending
  · intro htrap i
    cases hparse : Log.Level.parse t with
    | error e => exact absurd (Log.Level.parse_eq_error_iff.mp ⟨e, hparse⟩) htrap
    | ok said => exact Invocation.sameResult_run hparse i

/-- A text is read as what it names, and changes nothing but messages if it should name a level for
the environment, unless it looks like a numeral that cannot be read. -/
theorem isRead_and_levelIsHarmless_iff (t : Text) :
    (Log.Level.IsRead t ↔ ¬ Log.Level.Trap t) ∧ (LevelIsHarmless t ↔ ¬ Log.Level.Trap t) :=
  ⟨Log.Level.isRead_iff, levelIsHarmless_iff⟩

/-- A superscript names no level, and a numeral of 4301 digits names one. Neither is read as that,
and a command that ends well without a level breaks down. -/
theorem broken_by_superscript :
    ∃ i : Invocation, i.arguments = ["version".toList] ∧
      (∀ level, ¬ Log.Level.Says ['²'] level) ∧ ¬ Log.Level.IsRead ['²'] ∧
        (i.withLevel none).run.ending = .exited 0 ∧
          (i.withLevel (some ['²'])).run.ending = .brokeDown (.numeral (.malformed ['²'])) ∧
            ¬ LevelIsHarmless ['²'] ∧
              (∃ level, Log.Level.Says (List.replicate 4301 '7') level) ∧
                ¬ Log.Level.IsRead (List.replicate 4301 '7') := by
  have hdigit : ∀ c ∈ ['²'], Text.isDigitLike c := List.forall_mem_singleton.mpr (by decide)
  have htrap : Log.Level.Trap ['²'] :=
    ⟨['²'], Text.strip_eq_iff.mp (by decide), by decide, hdigit,
      .inl ⟨'²', List.mem_singleton_self _, by decide⟩⟩
  have hnone (level : Log.Level) : ¬ Log.Level.Says ['²'] level := by
    have hword {word : Text} (h : Text.TrimsTo ['²'] word) : word = ['²'] := by
      rw [← Text.strip_eq_iff.mpr h]
      decide
    intro hnamed
    cases hnamed with
    | name h hname hcase =>
      have hnot := Log.Level.not_isDigitLike_of_spoken hname hcase
      rw [hword h] at hnot
      exact hnot hdigit
    | number h hne hdecimal =>
      rw [hword h] at hdecimal
      exact absurd (hdecimal '²' List.mem_cons_self) (by decide)
  have hdigits : ∀ c ∈ List.replicate 4301 '7', Text.isDecimal c := by
    intro c hc
    rw [List.eq_of_mem_replicate hc]
    decide
  have hlong := Log.Level.says_and_trap_of_long hdigits (by rw [List.length_replicate]; decide)
  refine ⟨{ arguments := ["version".toList] }, rfl, hnone, ?_, by decide +kernel, by decide +kernel,
    ?_, ⟨_, hlong.1⟩, ?_⟩
  · rw [Log.Level.isRead_iff, not_not]
    exact htrap
  · rw [levelIsHarmless_iff, not_not]
    exact htrap
  · rw [Log.Level.isRead_iff, not_not]
    exact hlong.2

end LinePipe.CommandLine
