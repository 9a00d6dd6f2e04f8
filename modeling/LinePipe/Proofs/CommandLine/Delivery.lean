import LinePipe.Proofs.CommandLine.Run
import LinePipe.Proofs.Files.Tree
import LinePipe.Proofs.Text.Escapes
import LinePipe.Proofs.Text.Utf8

/-!
# Printing and writing back

The result of a pipeline is printed or written back to the file. What is printed goes through a
console, and a console without colour takes escape sequences out, also those that belong to the
text. What is written back is the result itself.

## Main statements

- `Invocation.out_of_printed`: what a call prints
- `Invocation.read_of_saved`: what a call leaves in the file
- `Invocation.printed_eq_saved_iff`: when both are the same
-/

namespace LinePipe

theorem Console.written_eq_self_iff (c : Console) (t : Text) :
    c.written t false = t ↔ c.colour = true ∨ ¬ Text.HasEscape t := by
  obtain ⟨colour⟩ := c
  cases colour with
  | true => simp [written]
  | false => simp [written, Text.plain_eq_self_iff]

/-- A current directory with one file in it. -/
def Files.withFile (name content : Text) : Files where
  tree := [([name], .file (Utf8.encode content))]

namespace CommandLine.Invocation

variable {i j : Invocation} {p p' : Preferences} {r : RunRequest}

/-- A result that is not written back is printed. -/
theorem out_of_printed (h : i.AsksRun p { r with inPlace := false })
    (hrun : i.run.ending = .exited ExitStatus.success.number) :
    ∃ plan text result, (r.plan i p).result = .ok plan ∧ i.readText r.file = .ok text ∧
      (plan.transform text).result = .ok result ∧
      i.run.out = (i.console p).written result false := by
  obtain ⟨d, target, plan, text, result, delivery, hprepare, htarget, hplan, htext, hresult,
    hdeliver, heq⟩ := of_run_success h hrun
  cases htarget
  cases hdeliver
  refine ⟨plan, text, result, hplan, htext, hresult, ?_⟩
  rw [heq, ← console_of_prepare hprepare]
  rfl

/-- A result that is written back stands in the file. If it is what the file held already, nothing
was written, and the file holds it still. -/
theorem read_of_saved {path : Text}
    (h : i.AsksRun p { r with file := some path, inPlace := true })
    (hrun : i.run.ending = .exited ExitStatus.success.number) :
    ∃ plan text result, (r.plan i p).result = .ok plan ∧ i.readFile path = .ok text ∧
      (plan.transform text).result = .ok result ∧
      ∃ octets, i.run.files.read (Path.ofText path) = .ok octets ∧
        Utf8.decode octets = .ok result := by
  obtain ⟨d, target, plan, text, result, delivery, hprepare, htarget, hplan, htext, hresult,
    hdeliver, heq⟩ := of_run_success h hrun
  cases htarget
  refine ⟨plan, text, result, hplan, htext, hresult, ?_⟩
  obtain ⟨octets, hoctets, hdecode⟩ := readFile_eq_ok_iff.mp htext
  rw [heq]
  -- The file is only opened for writing if the result is not what was read.
  by_cases hsame : result = text
  · have hunchanged : delivery = .unchanged := by
      simp [RunRequest.deliver, hsame, Except.bind] at hdeliver
      exact hdeliver.symm
    subst hunchanged hsame
    exact ⟨octets, hoctets, hdecode⟩
  · have hbeq : (result == text) = false := beq_eq_false_iff_ne.mpr hsame
    simp only [RunRequest.deliver, hbeq, Bool.false_eq_true, if_false] at hdeliver
    obtain ⟨files, hsave, hdelivery⟩ := Outcome.result_bind_eq_ok_iff.mp hdeliver
    cases hdelivery
    refine ⟨Utf8.encode result, ?_, Utf8.decode_encode result⟩
    exact Files.read_write hoctets (result_save_eq_ok_iff.mp hsave)

/-- What is printed for a file is what is written back to it, whatever is asked for in the way of
colour, except that a console without colour takes out the escape sequences of the result. -/
theorem printed_eq_saved_iff {path : Text}
    (hprint : i.AsksRun p { r with file := some path, inPlace := false })
    (hsave : j.AsksRun p' { r with file := some path, inPlace := true })
    (hfiles : j.files = i.files) (hregistry : j.registry = i.registry)
    (hsource : RunRequest.source p' = RunRequest.source p)
    (hprinted : i.run.ending = .exited ExitStatus.success.number)
    (hsaved : j.run.ending = .exited ExitStatus.success.number) :
    ∃ octets t, j.run.files.read (Path.ofText path) = .ok octets ∧ Utf8.decode octets = .ok t ∧
      i.run.out = (i.console p).written t false ∧
      (i.run.out = t ↔ (i.console p).colour = true ∨ ¬ Text.HasEscape t) := by
  obtain ⟨plan, text, result, hplan, htext, hresult, hout⟩ :=
    out_of_printed (r := { r with file := some path }) hprint hprinted
  obtain ⟨plan', text', result', hplan', htext', hresult', octets, hoctets, hdecode⟩ :=
    read_of_saved hsave hsaved
  -- Both calls make the same plan and read the same text.
  have hplans : r.plan j p' = r.plan i p :=
    RunRequest.plan_congr rfl rfl rfl hfiles hregistry hsource
  have htexts : j.readFile path = i.readFile path := by rw [readFile, readFile, hfiles]
  have hsamePlan : plan' = plan := by
    have hplan'' : (r.plan i p).result = .ok plan := hplan
    rw [hplans, hplan'', Except.ok.injEq] at hplan'
    exact hplan'.symm
  have hsameText : text' = text := by
    have htext'' : i.readFile path = .ok text := htext
    rw [htexts, htext'', Except.ok.injEq] at htext'
    exact htext'.symm
  subst hsamePlan hsameText
  rw [hresult, Except.ok.injEq] at hresult'
  subst hresult'
  refine ⟨octets, result, hoctets, hdecode, hout, ?_⟩
  rw [hout]
  exact Console.written_eq_self_iff _ _

/-- With colour even a result with escape sequences is printed as it is written back. -/
theorem printed_eq_saved_with_colour :
    ∃ (i j : Invocation) (p : Preferences) (r : RunRequest),
      i.AsksRun p { r with file := some "f.txt".toList, inPlace := false } ∧
      j.AsksRun p { r with file := some "f.txt".toList, inPlace := true } ∧
      i.run.ending = .exited ExitStatus.success.number ∧
      j.run.ending = .exited ExitStatus.success.number ∧
      ∃ octets t, j.run.files.read (Path.ofText "f.txt".toList) = .ok octets ∧
        Utf8.decode octets = .ok t ∧ i.run.out = t := by
  let files := Files.withFile "f.txt".toList "\x1b[31mred\x1b[0m\n\x1b[31mred\x1b[0m\n".toList
  let i : Invocation :=
    { arguments := ["--color=always".toList, "run".toList, "uniq".toList, "f.txt".toList], files }
  let j : Invocation := { i with arguments := i.arguments ++ ["--in-place".toList] }
  have hi : i.AsksRun { colour := .always }
      { pipeline := "uniq".toList, file := some "f.txt".toList } := ⟨_, _, rfl, rfl, rfl⟩
  have hj : j.AsksRun { colour := .always }
      { pipeline := "uniq".toList, file := some "f.txt".toList, inPlace := true } :=
    ⟨_, _, rfl, rfl, rfl⟩
  have hprinted : i.run.ending = .exited ExitStatus.success.number := by decide +kernel
  have hsaved : j.run.ending = .exited ExitStatus.success.number := by decide +kernel
  obtain ⟨octets, t, hoctets, ht, -, hiff⟩ :=
    printed_eq_saved_iff (r := { pipeline := "uniq".toList }) hi hj rfl rfl rfl hprinted hsaved
  exact ⟨i, j, _, { pipeline := "uniq".toList }, hi, hj, hprinted, hsaved, octets, t, hoctets, ht,
    hiff.mpr (.inl rfl)⟩

/-- Without colour an escape sequence of the text is written back, but not printed. -/
theorem printed_ne_saved_without_colour :
    ∃ (i j : Invocation) (p : Preferences) (r : RunRequest),
      i.AsksRun p { r with file := some "f.txt".toList, inPlace := false } ∧
      j.AsksRun p { r with file := some "f.txt".toList, inPlace := true } ∧
      j.files = i.files ∧
      i.run.ending = .exited ExitStatus.success.number ∧
      j.run.ending = .exited ExitStatus.success.number ∧
      i.run.out = "red\n".toList ∧
      j.run.files = Files.withFile "f.txt".toList "\x1b[31mred\x1b[0m\n".toList := by
  let files := Files.withFile "f.txt".toList "\x1b[31mred\x1b[0m\n".toList
  let i : Invocation := { arguments := ["run".toList, "uniq".toList, "f.txt".toList], files }
  let j : Invocation := { i with arguments := i.arguments ++ ["--in-place".toList] }
  refine ⟨i, j, {}, { pipeline := "uniq".toList }, ⟨_, _, rfl, rfl, rfl⟩, ⟨_, _, rfl, rfl, rfl⟩,
    rfl, ?_, ?_, ?_, ?_⟩
  · decide +kernel
  · decide +kernel
  · decide +kernel
  · decide +kernel

end CommandLine.Invocation

end LinePipe
