import LinePipe.Proofs.Buffer.Basic
import LinePipe.Proofs.CommandLine.Delivery
import LinePipe.Proofs.Pipeline.NormalForm

/-!
# Files and the standard input

The same octets can be given in a file or on the standard input. The text of a file is taken as it
is, but on the standard input every kind of line break is read as a line feed. So carriage returns
decide whether it matters where the octets come from.

## Main definitions

- `RunRequest.Plan.edit`: a plan applied to a buffer
- `Invocation.fed`: an invocation with other arguments and an input
- `Invocation.InputStandsFor`: how far the input stands for a file

## Main statements

- `RunRequest.Plan.edit_withNewline`: plans look at lines only
- `Invocation.inputStandsFor`: the input stands for any file with the same octets
-/

namespace LinePipe

theorem Console.count_written (console : Console) {c : Char} (hbreak : c = '\n' ∨ c = '\r')
    (t : Text) : (console.written t false).count c = t.count c := by
  obtain ⟨colour⟩ := console
  cases colour with
  | true => simp [written]
  | false =>
    have hplain := Text.count_plain (fun _ => Text.break_not_mem_isEscape hbreak) t
    simpa [written] using hplain

namespace CommandLine

namespace RunRequest

/-- A plan applied to a buffer. -/
def Plan.edit (plan : Plan) (b : TextBuffer) : Work TextBuffer := do
  let outside (e : RegionError) : Failure := .told (.region e)
  let lines ← Outcome.ofExcept ((b.linesIn plan.region).mapError outside)
  let out ← (plan.pipeline.execute lines).mapError Failure.ofPipeline
  (b.replace plan.region out).mapError outside

theorem Plan.transform_eq (plan : Plan) (t : Text) :
    plan.transform t =
      plan.edit (TextBuffer.ofText t plan.mode) >>= fun edited => pure edited.toText := by
  simp only [Plan.transform, RunRequest.transform, Plan.edit, Outcome.bind_assoc]

/-- A plan looks at the lines of a buffer only, not at the line break between them. -/
theorem Plan.edit_withNewline (plan : Plan) (b : TextBuffer) (newline : Text) :
    plan.edit (b.withNewline newline) =
      plan.edit b >>= fun edited => pure (edited.withNewline newline) := by
  simp only [Plan.edit, TextBuffer.replace_withNewline, Outcome.mapError_bind, Outcome.bind_assoc]
  rfl

/-- For a text whose carriage returns are part of line breaks, normalising changes at most how the
line breaks of the result are written. -/
theorem Plan.transform_normalizeBreaks (plan : Plan) {t : Text} (h : Text.ReturnsBreak t) :
    plan.transform (Text.normalizeBreaks t) =
      plan.edit (TextBuffer.ofText t plan.mode) >>= fun edited =>
        pure (edited.withNewline (plan.mode.breakFor (Text.normalizeBreaks t))).toText := by
  rw [Plan.transform_eq, TextBuffer.ofText_normalizeBreaks h, Plan.edit_withNewline,
    Outcome.bind_assoc]
  simp only [Outcome.value_bind]

theorem Plan.of_edit_eq_ok {plan : Plan} {b edited : TextBuffer}
    (h : (plan.edit b).result = .ok edited) :
    ∃ lines out, b.linesIn plan.region = .ok lines ∧
      (plan.pipeline.execute lines).result = .ok out ∧
      (b.replace plan.region out).result = .ok edited := by
  obtain ⟨lines, hlines, h⟩ := Outcome.result_bind_eq_ok_iff.mp h
  obtain ⟨out, hout, h⟩ := Outcome.result_bind_eq_ok_iff.mp h
  exact ⟨lines, out, except_mapError_eq_ok_iff.mp hlines,
    Outcome.result_mapError_eq_ok_iff.mp hout, Outcome.result_mapError_eq_ok_iff.mp h⟩

theorem Plan.newline_edit {plan : Plan} {b edited : TextBuffer}
    (h : (plan.edit b).result = .ok edited) : edited.newline = b.newline := by
  obtain ⟨lines, out, -, -, hreplace⟩ := Plan.of_edit_eq_ok h
  obtain ⟨start, stop, -, rfl⟩ := TextBuffer.of_replace_eq_ok hreplace
  rfl

section Builtin

variable {r : RunRequest} {i : Invocation} {p : Preferences} {plan : Plan}

theorem builtin_of_plan (hplan : (r.plan i p).result = .ok plan)
    (hregistry : i.registry = Registry.builtin) :
    ∃ collator document sink, ∀ stage ∈ plan.pipeline.stages,
      stage.Builtin collator document sink := by
  obtain ⟨_, _, hplan⟩ := Outcome.result_bind_eq_ok_iff.mp hplan
  obtain ⟨_, _, hplan⟩ := Outcome.result_bind_eq_ok_iff.mp hplan
  obtain ⟨given, _, hplan⟩ := Outcome.result_bind_eq_ok_iff.mp hplan
  obtain ⟨pipeline, hparse, hplan⟩ := Outcome.result_bind_eq_ok_iff.mp hplan
  cases hplan
  rw [hregistry] at hparse
  exact ⟨_, _, _, Pipeline.builtin_of_parse (Outcome.result_mapError_eq_ok_iff.mp hparse)⟩

/-- With built-in commands no line is lost altogether, and none is added. -/
theorem Plan.mem_edit (hplan : (r.plan i p).result = .ok plan)
    (hregistry : i.registry = Registry.builtin) {b edited : TextBuffer}
    (h : (plan.edit b).result = .ok edited) (line : Text) :
    line ∈ edited.lines ↔ line ∈ b.lines := by
  obtain ⟨lines, out, hlines, hout, hreplace⟩ := Plan.of_edit_eq_ok h
  obtain ⟨collator, document, sink, hbuiltin⟩ := builtin_of_plan hplan hregistry
  rw [Pipeline.execute_builtin hbuiltin, Except.ok.injEq] at hout
  refine TextBuffer.mem_lines_of_replace hlines ?_ hreplace line
  intro line
  rw [← hout, Pipeline.mem_normalForm]

/-- With built-in commands nothing can go wrong but that the region lies outside the text. -/
theorem Plan.of_edit_eq_error (hplan : (r.plan i p).result = .ok plan)
    (hregistry : i.registry = Registry.builtin) {b : TextBuffer} {f : Failure}
    (h : (plan.edit b).result = .error f) : ∃ e, f = .told (.region e) := by
  obtain ⟨collator, document, sink, hbuiltin⟩ := builtin_of_plan hplan hregistry
  simp only [Plan.edit, Outcome.result_bind, Outcome.result_ofExcept, Outcome.result_mapError] at h
  cases hlines : b.linesIn plan.region with
  | error e =>
    rw [hlines] at h
    exact ⟨e, (Except.error.inj h).symm⟩
  | ok lines =>
    simp only [hlines, except_mapError_ok, Except.bind, Pipeline.execute_builtin hbuiltin] at h
    cases hreplace : (b.replace plan.region (plan.pipeline.normalForm collator lines)).result with
    | error e =>
      rw [hreplace] at h
      exact ⟨e, (Except.error.inj h).symm⟩
    | ok edited =>
      rw [hreplace] at h
      cases h

/-- The line feeds of a result are those of its line breaks. -/
theorem Plan.count_feed_edit (hplan : (r.plan i p).result = .ok plan)
    (hregistry : i.registry = Registry.builtin) {t : Text} {edited : TextBuffer}
    (h : (plan.edit (TextBuffer.ofText t plan.mode)).result = .ok edited) :
    edited.toText.count '\n' = edited.breakCount := by
  have hlines : ∀ line ∈ edited.lines, '\n' ∉ line := by
    intro line hline
    have hmem := (Plan.mem_edit hplan hregistry h line).mp hline
    exact Text.feed_not_mem_of_mem_breakLines (TextBuffer.mem_breakLines_of_mem_ofText hmem)
  have hnewline : edited.newline.count '\n' = 1 := by
    rw [Plan.newline_edit h, TextBuffer.newline_ofText]
    exact TextBuffer.count_feed_breakFor plan.mode t
  rw [TextBuffer.count_toText, (TextBuffer.count_flatten_eq_zero_iff _ _).mpr hlines, hnewline]
  omega

/-- The carriage returns of a result stand in its lines and in its line breaks. -/
theorem Plan.count_return_edit {t : Text} {edited : TextBuffer}
    (h : (plan.edit (TextBuffer.ofText t plan.mode)).result = .ok edited) :
    edited.toText.count '\r' =
      edited.lines.flatten.count '\r' + edited.breakCount * (plan.mode.breakFor t).count '\r' := by
  rw [TextBuffer.count_toText, Plan.newline_edit h, TextBuffer.newline_ofText]

/-- The lines of a result hold no carriage return if and only if each carriage return of the text
is part of a line break. -/
theorem Plan.return_not_mem_edit_iff (hplan : (r.plan i p).result = .ok plan)
    (hregistry : i.registry = Registry.builtin) {t : Text} {edited : TextBuffer}
    (h : (plan.edit (TextBuffer.ofText t plan.mode)).result = .ok edited) :
    (∀ line ∈ edited.lines, '\r' ∉ line) ↔ Text.ReturnsBreak t := by
  rw [Text.returnsBreak_iff]
  constructor
  · intro hlines line hline hreturn
    have hne : line ≠ [] := List.ne_nil_of_mem hreturn
    have hmem := TextBuffer.mem_ofText_of_mem_breakLines plan.mode hline hne
    exact hlines line ((Plan.mem_edit hplan hregistry h line).mpr hmem) hreturn
  · intro hlines line hline
    have hmem := (Plan.mem_edit hplan hregistry h line).mp hline
    exact hlines line (TextBuffer.mem_breakLines_of_mem_ofText hmem)

/-- If the results for a text and for the text with normalised breaks have equally many line feeds
and equally many carriage returns, each carriage return of the text is part of a line break, and the
line break of the text is a line feed or is not needed. -/
theorem Plan.returnsBreak_of_count (hplan : (r.plan i p).result = .ok plan)
    (hregistry : i.registry = Registry.builtin) {t : Text} {edited edited' : TextBuffer}
    (h : (plan.edit (TextBuffer.ofText t plan.mode)).result = .ok edited)
    (h' : (plan.edit (TextBuffer.ofText (Text.normalizeBreaks t) plan.mode)).result = .ok edited')
    (hfeeds : edited.toText.count '\n' = edited'.toText.count '\n')
    (hreturns : edited.toText.count '\r' = edited'.toText.count '\r') :
    Text.ReturnsBreak t ∧ (plan.mode = .auto → '\r' ∈ t → edited.breakCount = 0) := by
  -- There are as many line feeds as line breaks, so the results have equally many line breaks; then
  -- the carriage returns can only be equally many if none stands in a line.
  have hbreaks : edited'.breakCount = edited.breakCount := by
    rw [Plan.count_feed_edit hplan hregistry h, Plan.count_feed_edit hplan hregistry h'] at hfeeds
    exact hfeeds.symm
  rw [Plan.count_return_edit h, Plan.count_return_edit h', hbreaks] at hreturns
  have hnone' : edited'.lines.flatten.count '\r' = 0 := by
    rw [TextBuffer.count_flatten_eq_zero_iff]
    refine (Plan.return_not_mem_edit_iff hplan hregistry h').mpr ?_
    intro before after hsplit
    have hmem : '\r' ∈ Text.normalizeBreaks t :=
      hsplit ▸ List.mem_append_right before List.mem_cons_self
    exact absurd hmem (Text.return_not_mem_normalizeBreaks t)
  have hle := Nat.mul_le_mul_left edited.breakCount
    (TextBuffer.count_return_breakFor_normalizeBreaks plan.mode t)
  have hnone : edited.lines.flatten.count '\r' = 0 := by omega
  have hparts : Text.ReturnsBreak t :=
    (Plan.return_not_mem_edit_iff hplan hregistry h).mp
      ((TextBuffer.count_flatten_eq_zero_iff _ _).mp hnone)
  refine ⟨hparts, ?_⟩
  intro hauto hmem
  have hcarriage : (plan.mode.breakFor t).count '\r' = 1 := by
    rw [hauto, NewlineMode.breakFor, detectNewline, if_pos (hparts.hasCarriageBreak hmem)]
    rfl
  have hnoCarriage : (plan.mode.breakFor (Text.normalizeBreaks t)).count '\r' = 0 := by
    rw [hauto, NewlineMode.breakFor,
      TextBuffer.detectNewline_of_not_mem (Text.return_not_mem_normalizeBreaks t)]
    rfl
  rw [hcarriage, hnoCarriage] at hreturns
  omega

end Builtin

/-- A result for a text, printed. -/
def printing (r : RunRequest) (i : Invocation) (p : Preferences) (t : Text) : Work Delivery :=
  r.plan i p >>= fun plan => plan.transform t >>= fun result => pure (.printed result)

theorem apply_of_readText {r : RunRequest} {i : Invocation} {t : Text} (p : Preferences)
    (h : i.readText r.file = .ok t) :
    { r with inPlace := false }.apply i p = r.printing i p t := by
  rw [apply_eq]
  have hplan : { r with inPlace := false }.plan i p = r.plan i p :=
    plan_congr rfl rfl rfl rfl rfl rfl
  have htarget : { r with inPlace := false }.target = .ok none := rfl
  have htext : i.readText { r with inPlace := false }.file = .ok t := h
  rw [htarget, htext, hplan]
  rfl

/-- Reading line breaks as line feeds makes no difference if the results have the same text
whichever line break they are written with. -/
theorem printing_normalizeBreaks {r : RunRequest} {i : Invocation} {p : Preferences} {t : Text}
    (h : Text.ReturnsBreak t)
    (hsame : ∀ plan edited, (r.plan i p).result = .ok plan →
      (plan.edit (TextBuffer.ofText t plan.mode)).result = .ok edited →
      (edited.withNewline (plan.mode.breakFor (Text.normalizeBreaks t))).toText = edited.toText) :
    r.printing i p (Text.normalizeBreaks t) = r.printing i p t := by
  refine Outcome.bind_congr fun plan hplan => ?_
  rw [Plan.transform_normalizeBreaks plan h, Plan.transform_eq, Outcome.bind_assoc,
    Outcome.bind_assoc]
  refine Outcome.bind_congr fun edited hedited => ?_
  rw [Outcome.value_bind, Outcome.value_bind, hsame plan edited hplan hedited]

end RunRequest

namespace Invocation

/-- The same invocation with other arguments and with an input. -/
def fed (i : Invocation) (arguments : List Text) (octets : Octets) : Invocation :=
  { i with arguments, input := octets }

/-- What a call that applies a pipeline leaves behind when this work is done. -/
def afterwards (i : Invocation) (p : Preferences) (work : Work Delivery) : Completion :=
  match Display.prepare i p with
  | .error f => i.failed Display.plain CommandName.run.spec f
  | .ok d => i.finish d CommandName.run.spec (i.delivered d) work

variable {i : Invocation} {p : Preferences} {r : RunRequest} {path : Text}
variable {arguments : List Text} {octets : Octets} {t : Text}

theorem run_file (h : i.AsksRun p { r with file := some path, inPlace := false })
    (hread : i.files.read (Path.ofText path) = .ok octets) (hdecode : Utf8.decode octets = .ok t) :
    i.run = i.afterwards p (r.printing i p t) := by
  have htext : i.readText (some path) = .ok t := readFile_eq_ok_iff.mpr ⟨octets, hread, hdecode⟩
  rw [run_of_asksRun h, RunRequest.apply_of_readText (r := { r with file := some path }) p htext]
  rfl

theorem run_fed (h : (i.fed arguments octets).AsksRun p { r with file := none, inPlace := false })
    (hdecode : Utf8.decode octets = .ok t) :
    (i.fed arguments octets).run =
      i.afterwards p (r.printing i p (Text.normalizeBreaks t)) := by
  have htext : (i.fed arguments octets).readText none = .ok (Text.normalizeBreaks t) := by
    change (i.fed arguments octets).readInput = _
    simp only [readInput, fed, hdecode]
  rw [run_of_asksRun h, RunRequest.apply_of_readText (r := { r with file := none }) p htext]
  rfl

/-- A call that succeeds is done with a result, and prints it. -/
theorem of_afterwards_success {t : Text}
    (h : (i.afterwards p (r.printing i p t)).ending = .exited ExitStatus.success.number) :
    ∃ plan edited, (r.plan i p).result = .ok plan ∧
      (plan.edit (TextBuffer.ofText t plan.mode)).result = .ok edited ∧
      (i.afterwards p (r.printing i p t)).out = (i.console p).written edited.toText false := by
  rw [afterwards] at h ⊢
  cases hprepare : Display.prepare i p with
  | error f =>
    rw [hprepare] at h
    exact absurd h f.ending_ne_success
  | ok d =>
    simp only [hprepare, finish] at h ⊢
    cases hwork : (r.printing i p t).result with
    | error f =>
      rw [hwork] at h
      exact absurd h f.ending_ne_success
    | ok delivery =>
      obtain ⟨plan, hplan, hwork⟩ := Outcome.result_bind_eq_ok_iff.mp hwork
      obtain ⟨result, hresult, hwork⟩ := Outcome.result_bind_eq_ok_iff.mp hwork
      rw [RunRequest.Plan.transform_eq] at hresult
      obtain ⟨edited, hedited, hresult⟩ := Outcome.result_bind_eq_ok_iff.mp hresult
      cases hwork
      cases hresult
      refine ⟨plan, edited, hplan, hedited, ?_⟩
      rw [← console_of_prepare hprepare]
      rfl

/-- The ending and the messages do not depend on what is made of the value that work ends with. -/
theorem ending_afterwards {α : Type} (i : Invocation) (p : Preferences) (work : Work α)
    (f g : α → Text) :
    (i.afterwards p (work >>= fun a => pure (.printed (f a)))).ending =
        (i.afterwards p (work >>= fun a => pure (.printed (g a)))).ending ∧
      (i.afterwards p (work >>= fun a => pure (.printed (f a)))).err =
        (i.afterwards p (work >>= fun a => pure (.printed (g a)))).err := by
  rw [afterwards, afterwards]
  cases Display.prepare i p with
  | error failure => exact ⟨rfl, rfl⟩
  | ok d =>
    cases hwork : work.result with
    | error failure =>
      rw [Outcome.bind_of_error hwork, Outcome.bind_of_error hwork]
      exact ⟨rfl, rfl⟩
    | ok a =>
      rw [Outcome.bind_of_ok hwork, Outcome.bind_of_ok hwork]
      exact ⟨rfl, rfl⟩

/-- Reading line breaks as line feeds changes neither the ending nor the messages if each carriage
return is part of a line break. -/
theorem ending_normalizeBreaks (h : Text.ReturnsBreak t) :
    (i.afterwards p (r.printing i p (Text.normalizeBreaks t))).ending =
        (i.afterwards p (r.printing i p t)).ending ∧
      (i.afterwards p (r.printing i p (Text.normalizeBreaks t))).err =
        (i.afterwards p (r.printing i p t)).err := by
  -- The same work is done, and its value becomes a text in two ways.
  let work : Work (TextBuffer × RunRequest.Plan) := r.plan i p >>= fun plan =>
    plan.edit (TextBuffer.ofText t plan.mode) >>= fun edited => pure (edited, plan)
  have hplain : r.printing i p t = work >>= fun done => pure (.printed done.1.toText) := by
    simp only [work, RunRequest.printing, RunRequest.Plan.transform_eq, Outcome.bind_assoc,
      Outcome.value_bind]
  have hnormal : r.printing i p (Text.normalizeBreaks t) =
      work >>= fun done => pure (.printed
        (done.1.withNewline (done.2.mode.breakFor (Text.normalizeBreaks t))).toText) := by
    simp only [work, RunRequest.printing, RunRequest.Plan.transform_normalizeBreaks _ h,
      Outcome.bind_assoc, Outcome.value_bind]
  rw [hplain, hnormal]
  exact ending_afterwards i p work _ _

/-- Reading line breaks as line feeds changes nothing if each carriage return is part of a line
break and the line break of the text is not to be used. -/
theorem printing_normalizeBreaks_of_mode (h : Text.ReturnsBreak t)
    (hauto : ∀ plan, (r.plan i p).result = .ok plan → plan.mode = .auto → '\r' ∉ t) :
    r.printing i p (Text.normalizeBreaks t) = r.printing i p t := by
  refine RunRequest.printing_normalizeBreaks h ?_
  intro plan edited hplan hedited
  have hnewline : edited.newline = plan.mode.breakFor (Text.normalizeBreaks t) := by
    rw [RunRequest.Plan.newline_edit hedited, TextBuffer.newline_ofText,
      TextBuffer.breakFor_normalizeBreaks (hauto plan hplan)]
  rw [← hnewline]
  rfl

/-- If a text gives a result, the text with its line breaks read as line feeds gives the same one
only where this was to be expected. -/
theorem afterwards_normalizeBreaks_iff {plan : RunRequest.Plan}
    (hregistry : i.registry = Registry.builtin)
    (hsuccess : (i.afterwards p (r.printing i p t)).ending = .exited ExitStatus.success.number)
    (hplan : (r.plan i p).result = .ok plan) :
    ((i.afterwards p (r.printing i p (Text.normalizeBreaks t))).ending =
          (i.afterwards p (r.printing i p t)).ending ∧
        (i.afterwards p (r.printing i p (Text.normalizeBreaks t))).out =
          (i.afterwards p (r.printing i p t)).out) ↔
      Text.ReturnsBreak t ∧
        (plan.mode = .auto → '\r' ∈ t → '\n' ∉ (i.afterwards p (r.printing i p t)).out) := by
  obtain ⟨plan', edited, hplan', hedited, hout⟩ := of_afterwards_success hsuccess
  obtain rfl : plan = plan' := Except.ok.inj (hplan.symm.trans hplan')
  have hnofeed : '\n' ∉ (i.afterwards p (r.printing i p t)).out ↔ edited.breakCount = 0 := by
    rw [hout, ← List.count_eq_zero, Console.count_written _ (.inl rfl),
      RunRequest.Plan.count_feed_edit hplan hregistry hedited]
  rw [hnofeed]
  constructor
  · rintro ⟨hending, hsame⟩
    obtain ⟨plan', edited', hplan', hedited', hout'⟩ :=
      of_afterwards_success (hending.trans hsuccess)
    obtain rfl : plan = plan' := Except.ok.inj (hplan.symm.trans hplan')
    rw [hout, hout'] at hsame
    have hcount {c : Char} (hc : c = '\n' ∨ c = '\r') :
        edited.toText.count c = edited'.toText.count c := by
      rw [← Console.count_written (i.console p) hc, ← hsame, Console.count_written _ hc]
    exact RunRequest.Plan.returnsBreak_of_count hplan hregistry hedited hedited'
      (hcount (.inl rfl)) (hcount (.inr rfl))
  · rintro ⟨hreturns, hunneeded⟩
    have hsame : r.printing i p (Text.normalizeBreaks t) = r.printing i p t := by
      by_cases hneeded : plan.mode = .auto ∧ '\r' ∈ t
      · refine RunRequest.printing_normalizeBreaks hreturns ?_
        intro plan' edited' hplan' hedited'
        obtain rfl : plan = plan' := Except.ok.inj (hplan.symm.trans hplan')
        obtain rfl : edited = edited' := Except.ok.inj (hedited.symm.trans hedited')
        exact TextBuffer.toText_withNewline (hunneeded hneeded.1 hneeded.2) _
      · refine printing_normalizeBreaks_of_mode hreturns ?_
        intro plan' hplan' hauto hmem
        obtain rfl : plan = plan' := Except.ok.inj (hplan.symm.trans hplan')
        exact hneeded ⟨hauto, hmem⟩
    rw [hsame]
    exact ⟨rfl, rfl⟩

/-- A call of built-in commands that fails does so before the text is read, or because the region
lies outside the text. -/
theorem of_afterwards_failure (hregistry : i.registry = Registry.builtin)
    (h : (i.afterwards p (r.printing i p t)).ending ≠ .exited ExitStatus.success.number) :
    (∀ t', i.afterwards p (r.printing i p t') = i.afterwards p (r.printing i p t)) ∨
      (i.afterwards p (r.printing i p t)).ending = .exited ExitStatus.usage.number := by
  cases hprepare : Display.prepare i p with
  | error f =>
    refine .inl fun t' => ?_
    simp only [afterwards, hprepare]
  | ok d =>
    cases hplan : (r.plan i p).result with
    | error f =>
      refine .inl fun t' => ?_
      simp only [RunRequest.printing, Outcome.bind_of_error hplan]
    | ok plan =>
      refine .inr ?_
      cases hedited : (plan.edit (TextBuffer.ofText t plan.mode)).result with
      | error f =>
        obtain ⟨e, rfl⟩ := RunRequest.Plan.of_edit_eq_error hplan hregistry hedited
        simp only [afterwards, hprepare, finish, RunRequest.printing, Outcome.result_bind, hplan,
          RunRequest.Plan.transform_eq, hedited, Except.bind]
        rfl
      | ok edited =>
        refine absurd ?_ h
        simp only [afterwards, hprepare, finish, RunRequest.printing, Outcome.result_bind, hplan,
          RunRequest.Plan.transform_eq, hedited, Outcome.result_pure, Except.bind]
        rfl

theorem out_of_afterwards_failure (work : Work Delivery)
    (h : (i.afterwards p work).ending ≠ .exited ExitStatus.success.number) :
    (i.afterwards p work).out = [] := by
  rw [afterwards] at h ⊢
  cases hprepare : Display.prepare i p with
  | error f => rfl
  | ok d =>
    simp only [hprepare, finish] at h ⊢
    cases hwork : work.result with
    | error f => rfl
    | ok delivery =>
      rw [hwork] at h
      exact absurd rfl h

/-- How far the call `j`, with a text on the standard input, stands for the call `i`, with the same
text in a file. -/
structure InputStandsFor (j i : Invocation) (p : Preferences) (r : RunRequest) (t : Text) :
    Prop where
  /-- If each carriage return is part of a line break, the calls end in the same way and print the
  same messages. -/
  ending : Text.ReturnsBreak t → j.run.ending = i.run.ending ∧ j.run.err = i.run.err
  /-- They also print the same result, unless the line break of the text is to be used and it has a
  carriage return. -/
  whole : Text.ReturnsBreak t →
    (∀ plan, (r.plan i p).result = .ok plan → plan.mode = .auto → '\r' ∉ t) → j.run = i.run
  /-- If the call for the file succeeds, the calls end in the same way with the same result exactly
  if each carriage return is part of a line break and, where the line break of the text is to be
  used, it is a line feed or the result has no line break. -/
  success_iff : i.registry = Registry.builtin →
    i.run.ending = .exited ExitStatus.success.number →
    ∀ plan, (r.plan i p).result = .ok plan →
      ((j.run.ending = i.run.ending ∧ j.run.out = i.run.out) ↔
        Text.ReturnsBreak t ∧ (plan.mode = .auto → '\r' ∈ t → '\n' ∉ i.run.out))
  /-- If the call for the file fails, the calls end in the same way with the same result exactly if
  the other call fails too. -/
  failure_iff : i.registry = Registry.builtin →
    i.run.ending ≠ .exited ExitStatus.success.number →
    ((j.run.ending = i.run.ending ∧ j.run.out = i.run.out) ↔
      j.run.ending ≠ .exited ExitStatus.success.number)

/-- Octets on the standard input stand for a file with the same octets as far as the carriage
returns of the text allow. -/
theorem inputStandsFor (hfile : i.AsksRun p { r with file := some path, inPlace := false })
    (hfed : (i.fed arguments octets).AsksRun p { r with file := none, inPlace := false })
    (hread : i.files.read (Path.ofText path) = .ok octets)
    (hdecode : Utf8.decode octets = .ok t) :
    InputStandsFor (i.fed arguments octets) i p r t := by
  have hi := run_file hfile hread hdecode
  have hj := run_fed hfed hdecode
  refine ⟨?_, ?_, ?_, ?_⟩
  · intro hreturns
    rw [hi, hj]
    exact ending_normalizeBreaks hreturns
  · intro hreturns hauto
    rw [hi, hj, printing_normalizeBreaks_of_mode hreturns hauto]
  · intro hregistry hsuccess plan hplan
    rw [hi] at hsuccess
    rw [hi, hj]
    exact afterwards_normalizeBreaks_iff hregistry hsuccess hplan
  · intro hregistry hfailure
    rw [hi] at hfailure
    rw [hi, hj]
    constructor
    · rintro ⟨hending, -⟩
      rw [hending]
      exact hfailure
    · intro hfailure'
      refine ⟨?_, ?_⟩
      · obtain hsame | husage := of_afterwards_failure hregistry hfailure
        · rw [hsame]
        · obtain hsame' | husage' := of_afterwards_failure hregistry hfailure'
          · rw [hsame' t]
          · rw [husage, husage']
      · rw [out_of_afterwards_failure _ hfailure, out_of_afterwards_failure _ hfailure']

/-- Line feeds and a carriage return with one, in a file and on the standard input. -/
theorem inputStandsFor_mixed_breaks :
    ∃ (i : Invocation) (arguments : List Text) (octets : Octets) (r : RunRequest),
      i.AsksRun {} { r with file := some "f.txt".toList, inPlace := false } ∧
      (i.fed arguments octets).AsksRun {} { r with file := none, inPlace := false } ∧
      i.files.read (Path.ofText "f.txt".toList) = .ok octets ∧
      Utf8.decode octets = .ok "b\r\na\nb\n".toList ∧
      InputStandsFor (i.fed arguments octets) i {} r "b\r\na\nb\n".toList ∧
      (i.fed arguments octets).run.ending = i.run.ending := by
  let octets := Utf8.encode "b\r\na\nb\n".toList
  let i : Invocation :=
    { arguments := ["run".toList, "sort".toList, "f.txt".toList]
      files := Files.withFile "f.txt".toList "b\r\na\nb\n".toList }
  have hi : i.AsksRun {} { pipeline := "sort".toList, file := some "f.txt".toList } :=
    ⟨_, _, rfl, rfl, rfl⟩
  have hj : (i.fed ["run".toList, "sort".toList, "-".toList] octets).AsksRun {}
      { pipeline := "sort".toList } := ⟨_, _, rfl, rfl, rfl⟩
  have hreturns : Text.ReturnsBreak "b\r\na\nb\n".toList :=
    (Text.returnsBreak_iff _).mpr (by decide)
  have hdecode : Utf8.decode octets = .ok "b\r\na\nb\n".toList := Utf8.decode_encode _
  have hstands := inputStandsFor (r := { pipeline := "sort".toList }) hi hj rfl hdecode
  exact ⟨i, _, octets, { pipeline := "sort".toList }, hi, hj, rfl, hdecode, hstands,
    (hstands.ending hreturns).1⟩

/-- The line breaks of a text are kept if it stands in a file, but not on the standard input. -/
theorem input_ne_file_carriage_breaks :
    ∃ (i : Invocation) (arguments : List Text) (octets : Octets) (r : RunRequest),
      i.AsksRun {} { r with file := some "f.txt".toList, inPlace := false } ∧
      (i.fed arguments octets).AsksRun {} { r with file := none, inPlace := false } ∧
      i.files.read (Path.ofText "f.txt".toList) = .ok octets ∧
      Utf8.decode octets = .ok "a\r\nb\r\n".toList ∧
      i.run.ending = (i.fed arguments octets).run.ending ∧
      i.run.out = "a\r\nb\r\n".toList ∧
      (i.fed arguments octets).run.out = "a\nb\n".toList := by
  let octets := Utf8.encode "a\r\nb\r\n".toList
  let i : Invocation :=
    { arguments := ["run".toList, "uniq".toList, "f.txt".toList]
      files := Files.withFile "f.txt".toList "a\r\nb\r\n".toList }
  refine ⟨i, ["run".toList, "uniq".toList], octets, { pipeline := "uniq".toList },
    ⟨_, _, rfl, rfl, rfl⟩, ⟨_, _, rfl, rfl, rfl⟩, rfl, Utf8.decode_encode _, ?_, ?_, ?_⟩
  · decide +kernel
  · decide +kernel
  · decide +kernel

end Invocation

end CommandLine

end LinePipe
