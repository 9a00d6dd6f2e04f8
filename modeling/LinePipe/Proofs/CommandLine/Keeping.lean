import LinePipe.Proofs.CommandLine.Run
import LinePipe.Proofs.Settings.Loading
import LinePipe.Proofs.Text.Utf8

/-!
# What becomes of the files

There is one thing only that a run of the program does to files: it writes a result back to the file
that it was computed from. All other runs, and all that fail at any point, leave the files as they
found them.

## Main definitions

- `Invocation.Computes`: a call computes a result from the text of a file
- `Invocation.Keeps`: what a run does to the files

## Main statements

- `Invocation.files_run`: only a call that writes a result back leaves other files
- `Invocation.keeps`: what each run does to the files
-/

namespace LinePipe.CommandLine

/-- Only one command applies pipelines. -/
theorem Request.name_of_read_run {files : Files} {name : CommandName} {arguments : List Text}
    {r : RunRequest} (h : Request.read files name arguments = .ok (.action (.run r))) :
    name = .run := by
  rw [Request.read] at h
  split at h
  · cases h
  · split at h
    · cases h
    · obtain ⟨_, -, h⟩ := except_bind_eq_ok_iff.mp h
      obtain ⟨_, -, h⟩ := except_bind_eq_ok_iff.mp h
      cases name with
      | run => rfl
      | check | commands | help | version => cases h

/-- A result that goes to a file is written only if it is not what the file holds already. -/
theorem RunRequest.of_deliver_eq_ok {i : Invocation} {path text result : Text}
    {delivery : Delivery} (h : (deliver i (some path) text result).result = .ok delivery) :
    result = text ∧ delivery = .unchanged ∨
      result ≠ text ∧ ∃ files, i.files.write (Path.ofText path) (Utf8.encode result) = .ok files ∧
        delivery = .saved files := by
  by_cases hsame : result = text
  · left
    refine ⟨hsame, ?_⟩
    subst hsame
    simp only [deliver, BEq.rfl, if_true] at h
    cases h
    rfl
  · right
    refine ⟨hsame, ?_⟩
    have hbeq : (result == text) = false := beq_eq_false_iff_ne.mpr hsame
    simp only [deliver, hbeq, Bool.false_eq_true, if_false] at h
    obtain ⟨files, hsave, hdelivery⟩ := Outcome.result_bind_eq_ok_iff.mp h
    cases hdelivery
    exact ⟨files, Invocation.result_save_eq_ok_iff.mp hsave, rfl⟩

namespace Invocation

variable {i : Invocation} {p : Preferences} {r : RunRequest}

theorem files_delivered {d : Display} {es : List Event} {delivery : Delivery}
    (h : ∀ files, delivery ≠ .saved files) : (i.delivered d es delivery).files = i.files := by
  cases delivery with
  | printed result => rfl
  | unchanged => rfl
  | saved files => exact absurd rfl (h files)

/-- Reports leave the files as they are. -/
theorem files_perform {d : Display} {name : CommandName} {request : Request}
    (h : ∀ r files, request = .run r → (r.apply i p).result ≠ .ok (.saved files)) :
    (i.perform p d name request).files = i.files := by
  cases request with
  | run r =>
    rw [perform, finish]
    cases hresult : (r.apply i p).result with
    | error f => rfl
    | ok delivery =>
      refine files_delivered ?_
      rintro files rfl
      exact h r files rfl hresult
  | check pipeline format =>
    rw [perform, finish]
    split <;> rfl
  | commands format => rfl
  | help => rfl
  | version format => rfl

/-- Only a call that writes a result back leaves other files than it found. -/
theorem files_run
    (h : ∀ p r d files, i.AsksRun p r → Display.prepare i p = .ok d →
      (r.apply i p).result ≠ .ok (.saved files)) :
    i.run.files = i.files := by
  rw [run]
  split
  · rfl
  · rfl
  · rename_i p hread
    rw [greet]
    split <;> rfl
  · rename_i p word arguments hread
    split
    · rw [refuse]
      split <;> rfl
    · rename_i name hname
      rw [call]
      split
      · rfl
      · rename_i d hprepare
        split
        · rfl
        · rfl
        · rename_i request hrequest
          refine files_perform ?_
          rintro r files rfl
          have hrun := Request.name_of_read_run hrequest
          subst hrun
          exact h p r d files ⟨word, arguments, hread, hname, hrequest⟩ hprepare

/-- A file is only written for a request to write the result back. -/
theorem inPlace_of_saved {files : Files} (h : (r.apply i p).result = .ok (.saved files)) :
    r.inPlace = true := by
  obtain ⟨target, plan, text, result, htarget, -, -, -, hdeliver⟩ := RunRequest.of_apply_eq_ok h
  cases target with
  | none => cases hdeliver
  | some path => exact (RunRequest.of_target_eq_some htarget).1

/-! ## Failures to come that are not noticed -/

def withFault (i : Invocation) (fault : Option OpenFault) : Invocation :=
  { i with files := i.files.withFault fault }

theorem asksRun_withFault (h : i.AsksRun p r) (fault : Option OpenFault) :
    (i.withFault fault).AsksRun p r :=
  h

theorem plan_withFault {fault : Option OpenFault}
    (h : ∀ q, (i.files.withFault fault).fault? q .reading = i.files.fault? q .reading) :
    r.plan (i.withFault fault) p = r.plan i p := by
  have hload (source : Settings.Source) :
      Settings.load (i.files.withFault fault) source = Settings.load i.files source :=
    Settings.load_congr (fun path _ => ⟨rfl, fun _ => Files.read_withFault (h path)⟩) rfl rfl rfl
  simp only [RunRequest.plan, RunRequest.settings, withFault, hload]

theorem readFile_withFault {fault : Option OpenFault} {path : Text}
    (h : ∀ q, (i.files.withFault fault).fault? q .reading = i.files.fault? q .reading) :
    (i.withFault fault).readFile path = i.readFile path := by
  have hread : (i.withFault fault).files.read (Path.ofText path) =
      i.files.read (Path.ofText path) := Files.read_withFault (h _)
  rw [readFile, readFile, hread]

/-- A call computes a result from the text of the file that it names. -/
structure Computes (i : Invocation) (p : Preferences) (r : RunRequest)
    (path text result : Text) : Prop where
  named : r.file = some path
  read : i.readFile path = .ok text
  computed : ∃ plan, (r.plan i p).result = .ok plan ∧ (plan.transform text).result = .ok result

/-- A file that holds the result already is not opened for writing. -/
theorem apply_withFault {fault : Option OpenFault} {path text : Text}
    (h : ∀ q, (i.files.withFault fault).fault? q .reading = i.files.fault? q .reading)
    (hsame : i.Computes p r path text text) :
    r.apply (i.withFault fault) p = r.apply i p := by
  obtain ⟨hnamed, hread, plan, hplan, hcomputed⟩ := hsame
  rw [RunRequest.apply_eq, RunRequest.apply_eq, plan_withFault h, hnamed, readText, readText,
    readFile_withFault h, hread]
  -- Up to the delivery nothing is opened for writing, and the delivery opens nothing either.
  refine Outcome.bind_congr fun target _ => Outcome.bind_congr fun plan' hplan' =>
    Outcome.bind_congr fun text' htext' => Outcome.bind_congr fun result hresult => ?_
  rw [hplan, Except.ok.injEq] at hplan'
  subst hplan'
  cases htext'
  rw [hcomputed, Except.ok.injEq] at hresult
  subst hresult
  cases target with
  | none => rfl
  | some path => simp only [RunRequest.deliver, BEq.rfl, if_true]

/-! ## What each run does to the files -/

/-- What a call that writes a result back does to the files: it changes one file at most, which
holds the result afterwards. If that is what it held before, no file is changed, and a failure to
come when a file is opened for writing is not noticed. -/
structure Saves (i : Invocation) (path text result : Text) (place : List Text) : Prop where
  leads : i.files.locate (Path.ofText path) = .ok place
  others : i.files.DifferOnlyAt i.run.files place
  holds : i.run.files.tree.node? place = some (.file (Utf8.encode result))
  kept : result = text → i.run.files = i.files
  unnoticed : result = text → ∀ fault : Option OpenFault,
    (∀ q, (i.files.withFault fault).fault? q .reading = i.files.fault? q .reading) →
      (i.withFault fault).run = { i.run with files := i.files.withFault fault }

structure Keeps (i : Invocation) : Prop where
  failing : i.run.ending.status ≠ ExitStatus.success.number → i.run.files = i.files
  printing : (∀ p r, i.AsksRun p r → r.inPlace = false) → i.run.files = i.files
  saving : ∀ p r, i.AsksRun p r → r.inPlace = true →
    i.run.ending.status = ExitStatus.success.number →
      ∃ path text result place, i.Computes p r path text result ∧
        i.Saves path text result place

/-- A run that ends with the status of success has not broken down. -/
theorem ending_of_status {e : Ending} (h : e.status = ExitStatus.success.number) :
    e = .exited ExitStatus.success.number := by
  cases e with
  | exited status => exact congrArg Ending.exited h
  | brokeDown breakdown =>
    have hfailure : ExitStatus.failure.number = ExitStatus.success.number := h
    cases hfailure

theorem files_of_failing (h : i.run.ending.status ≠ ExitStatus.success.number) :
    i.run.files = i.files := by
  refine files_run fun p r d files hasks hprepare hsaved => h ?_
  rw [run_of_apply_eq_ok hasks hprepare hsaved]
  rfl

theorem files_of_printing (h : ∀ p r, i.AsksRun p r → r.inPlace = false) :
    i.run.files = i.files := by
  refine files_run fun p r d files hasks hprepare hsaved => ?_
  have hinPlace := inPlace_of_saved hsaved
  rw [h p r hasks] at hinPlace
  cases hinPlace

theorem not_saved_of_computes_same {path text : Text} {files : Files}
    (h : i.Computes p r path text text) : (r.apply i p).result ≠ .ok (.saved files) := by
  intro hsaved
  obtain ⟨target, plan, text', result, -, hplan, htext, hresult, hdeliver⟩ :=
    RunRequest.of_apply_eq_ok hsaved
  obtain ⟨hnamed, hread, plan', hplan', hcomputed⟩ := h
  rw [hnamed, readText, hread, Except.ok.injEq] at htext
  rw [hplan, Except.ok.injEq] at hplan'
  subst htext hplan'
  rw [hcomputed, Except.ok.injEq] at hresult
  subst hresult
  cases target with
  | none => cases hdeliver
  | some path =>
    obtain ⟨-, hdelivery⟩ | ⟨hchanged, -⟩ := RunRequest.of_deliver_eq_ok hdeliver
    · cases hdelivery
    · exact hchanged rfl

theorem run_withFault {fault : Option OpenFault} {path text : Text} (h : i.AsksRun p r)
    (hfault : ∀ q, (i.files.withFault fault).fault? q .reading = i.files.fault? q .reading)
    (hsame : i.Computes p r path text text) :
    (i.withFault fault).run = { i.run with files := i.files.withFault fault } := by
  have hprepare : Display.prepare (i.withFault fault) p = Display.prepare i p := rfl
  rw [run_of_asksRun h, run_of_asksRun (asksRun_withFault h fault), hprepare]
  cases hd : Display.prepare i p with
  | error f => rfl
  | ok d =>
    dsimp only [finish]
    rw [apply_withFault hfault hsame]
    cases hresult : (r.apply i p).result with
    | error f => rfl
    | ok delivery =>
      cases delivery with
      | printed result => rfl
      | unchanged => rfl
      | saved files => exact absurd hresult (not_saved_of_computes_same hsame)

theorem saves_of_run (h : i.AsksRun p r) (hinPlace : r.inPlace = true)
    (hrun : i.run.ending.status = ExitStatus.success.number) :
    ∃ path text result place, i.Computes p r path text result ∧
      i.Saves path text result place := by
  obtain ⟨d, target, plan, text, result, delivery, hprepare, htarget, hplan, htext, hresult,
    hdeliver, heq⟩ := of_run_success h (ending_of_status hrun)
  rw [RunRequest.target, hinPlace] at htarget
  cases hfile : r.file with
  | none => simp [hfile] at htarget
  | some path =>
    simp only [hfile, Bool.not_true, Bool.false_eq_true, if_false, Except.ok.injEq] at htarget
    subst htarget
    rw [hfile] at htext
    have hcomputes : i.Computes p r path text result := ⟨hfile, htext, plan, hplan, hresult⟩
    obtain ⟨octets, hread, hdecode⟩ := readFile_eq_ok_iff.mp htext
    rw [Utf8.decode_eq_ok_iff] at hdecode
    obtain ⟨place, hopened, hnode⟩ := Files.of_read_eq_ok hread
    obtain ⟨-, -, hleads⟩ := Files.locate_of_opened hopened
    refine ⟨path, text, result, place, hcomputes, ?_⟩
    -- The file is written only if the result is not what it holds.
    obtain ⟨hsame, hdelivery⟩ | ⟨hchanged, files, hwrite, hdelivery⟩ :=
      RunRequest.of_deliver_eq_ok hdeliver
    · subst hsame hdelivery
      have hkept : i.run.files = i.files := by rw [heq]; rfl
      exact
        { leads := hleads
          others := by
            rw [hkept]
            exact Files.differOnlyAt_self hnode
          holds := by rw [hkept, hnode, hdecode]
          kept := fun _ => hkept
          unnoticed := fun _ fault hfault => run_withFault h hfault hcomputes }
    -- The path leads to the same place for reading and for writing.
    · obtain ⟨place', hopened', hfiles⟩ := Files.of_write_eq_ok hwrite
      obtain ⟨-, -, hleads'⟩ := Files.locate_of_opened hopened'
      rw [hleads, Except.ok.injEq] at hleads'
      subst hleads' hdelivery
      have hput : i.run.files =
          { i.files with tree := i.files.tree.put place (Utf8.encode result) } := by
        rw [heq, ← hfiles]
        rfl
      exact
        { leads := hleads
          others := by
            rw [hput]
            exact Files.differOnlyAt_put hnode _
          holds := by rw [hput, FileTree.node?_put hnode, if_pos rfl]
          kept := fun hsame => absurd hsame hchanged
          unnoticed := fun hsame => absurd hsame hchanged }

/-- No run loses a file: each that fails leaves all files as they were, and so does each that is not
to write a result back; one that does so changes the file that it names at most, and only if the
result is not what it holds. -/
theorem keeps (i : Invocation) : i.Keeps where
  failing := files_of_failing
  printing := files_of_printing
  saving _ _ := saves_of_run

end Invocation

end LinePipe.CommandLine
