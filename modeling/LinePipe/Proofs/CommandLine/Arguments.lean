import LinePipe.CommandLine.Request
import LinePipe.Proofs.Outcome
import LinePipe.Proofs.Text.Words

/-!
# What arguments are read as

Arguments are read without looking at files, but for the question whether a path leads to a
directory. All that is read is part of some argument.

## Main statements

- `Preferences.read_congr`, `Request.read_congr`: only directories matter when arguments are read
- `not_mem_of_scanFrom`: a character that stands in no argument stands in nothing that is read
-/

namespace LinePipe.CommandLine

section Directories

variable {fs fs' : Files} (h : ∀ p, fs'.isDirectory p = fs.isDirectory p)
include h

theorem checkUse_congr : checkUse fs' = checkUse fs := by
  funext use
  simp only [checkUse, checkFile, h]

theorem Preferences.read_congr (arguments : List Text) :
    Preferences.read fs' arguments = Preferences.read fs arguments := by
  rw [Preferences.read, Preferences.read, checkUse_congr h]

theorem Request.read_congr (name : CommandName) (arguments : List Text) :
    Request.read fs' name arguments = Request.read fs name arguments := by
  rw [Request.read, Request.read, checkUse_congr h]

end Directories

/-! ## Characters of what is read -/

section Characters

variable {c : Char} {specs : List OptionSpec}

theorem not_mem_of_readLong {argument : Text} {found : ArgumentUses} (h : c ∉ argument)
    (hread : readLong specs argument = .ok found) : ∀ use ∈ found.uses, c ∉ use.value := by
  intro use huse
  rw [readLong] at hread
  split at hread
  · cases hread
  · split at hread
    · cases hread
      cases huse
    · rename_i value _ hvalue
      cases hread
      rw [List.mem_singleton.mp huse]
      intro hc
      have hsuffix : c ∈ argument.dropWhile (· != '=') := by
        rw [hvalue]
        exact List.mem_cons_of_mem _ hc
      exact h ((List.dropWhile_sublist _).subset hsuffix)
    · cases hread
      rw [List.mem_singleton.mp huse]
      exact List.not_mem_nil
    · cases hread

theorem not_mem_of_readShort {letters : Text} {found : ArgumentUses} (h : c ∉ letters)
    (hread : readShort specs letters = .ok found) : ∀ use ∈ found.uses, c ∉ use.value := by
  induction letters generalizing found with
  | nil =>
    cases hread
    intro use huse
    cases huse
  | cons letter rest ih =>
    have hrest : c ∉ rest := fun hc => h (List.mem_cons_of_mem letter hc)
    intro use huse
    rw [readShort] at hread
    split at hread
    · cases hread
    · split at hread
      · cases hread
        split at huse
        · cases huse
        · rw [List.mem_singleton.mp huse]
          exact hrest
      · obtain ⟨later, hlater, rfl⟩ := except_map_eq_ok_iff.mp hread
        obtain rfl | huse := List.mem_cons.mp huse
        · exact List.not_mem_nil
        · exact ih hrest hlater use huse

theorem not_mem_of_readOption {argument : Text} {found : ArgumentUses} (h : c ∉ argument)
    (hread : readOption specs argument = .ok found) : ∀ use ∈ found.uses, c ∉ use.value := by
  rw [readOption.eq_def] at hread
  split at hread
  · exact not_mem_of_readLong h hread
  · exact not_mem_of_readShort (fun hc => h (List.mem_of_mem_tail hc)) hread

/-- A character that stands in no argument stands in nothing that is read from them. -/
theorem not_mem_of_scanFrom {mixed : Bool} {awaiting : Option Match} {arguments : List Text}
    {s : Scan} (h : ∀ argument ∈ arguments, c ∉ argument)
    (hscan : scanFrom specs mixed awaiting arguments = .ok s) :
    (∀ use ∈ s.uses, c ∉ use.value) ∧ ∀ operand ∈ s.operands, c ∉ operand := by
  induction arguments generalizing awaiting s with
  | nil =>
    rw [scanFrom.eq_def] at hscan
    dsimp only at hscan
    split at hscan
    · cases hscan
      exact ⟨List.forall_mem_nil _, List.forall_mem_nil _⟩
    · cases hscan
  | cons argument rest ih =>
    have hargument := h argument List.mem_cons_self
    have hrest : ∀ a ∈ rest, c ∉ a := fun a ha => h a (List.mem_cons_of_mem argument ha)
    rw [scanFrom.eq_def] at hscan
    dsimp only at hscan
    split at hscan
    -- The argument is the value of the option before it.
    · obtain ⟨later, hlater, rfl⟩ := except_map_eq_ok_iff.mp hscan
      obtain ⟨huses, hoperands⟩ := ih hrest hlater
      exact ⟨List.forall_mem_cons.mpr ⟨hargument, huses⟩, hoperands⟩
    · split at hscan
      -- Only operands follow.
      · cases hscan
        exact ⟨List.forall_mem_nil _, hrest⟩
      · split at hscan
        -- The argument is an option.
        · split at hscan
          · cases hscan
          · rename_i found hfound
            obtain ⟨later, hlater, rfl⟩ := except_map_eq_ok_iff.mp hscan
            obtain ⟨huses, hoperands⟩ := ih hrest hlater
            exact ⟨List.forall_mem_append.mpr ⟨not_mem_of_readOption hargument hfound, huses⟩,
              hoperands⟩
        -- The argument is an operand.
        · split at hscan
          · obtain ⟨later, hlater, rfl⟩ := except_map_eq_ok_iff.mp hscan
            obtain ⟨huses, hoperands⟩ := ih hrest hlater
            exact ⟨huses, List.forall_mem_cons.mpr ⟨hargument, hoperands⟩⟩
          · cases hscan
            exact ⟨List.forall_mem_nil _, List.forall_mem_cons.mpr ⟨hargument, hrest⟩⟩

theorem not_mem_of_mem_decisive {s : Scan} {use : OptionUse}
    (h : ∀ use ∈ s.uses, c ∉ use.value) (huse : use ∈ s.decisive) : c ∉ use.value := by
  obtain ⟨name, -, hlast⟩ := List.mem_filterMap.mp huse
  exact h use (List.mem_reverse.mp (List.mem_of_find?_eq_some hlast))

end Characters

/-! ## Arguments without null characters -/

section Null

variable {fs : Files}

theorem holdsNull_ofText {t : Text} (h : '\x00' ∉ t) :
    Files.holdsNull (Path.ofText t) = false := by
  rw [Bool.eq_false_iff]
  intro hnull
  obtain ⟨part, hpart, hc⟩ := List.any_eq_true.mp hnull
  have hpiece := (List.mem_filter.mp hpart).1
  exact h (Text.mem_of_mem_splitWhere hpiece (List.elem_iff.mp hc))

/-- A value without null characters is either taken or refused. -/
theorem usage_of_checkUse {use : OptionUse} {f : Failure} (h : '\x00' ∉ use.value)
    (hcheck : checkUse fs use = .error f) : ∃ error, f = .usage error := by
  have hchoice {option value : Text} {choices : List Text}
      (hcheck : checkChoice option choices value = .error f) : ∃ error, f = .usage error := by
    rw [checkChoice] at hcheck
    split at hcheck
    · cases hcheck
    · cases hcheck
      exact ⟨_, rfl⟩
  rw [checkUse] at hcheck
  split at hcheck
  · exact hchoice hcheck
  · exact hchoice hcheck
  · exact hchoice hcheck
  · rw [checkFile, holdsNull_ofText h] at hcheck
    simp only [Bool.false_eq_true, if_false] at hcheck
    split at hcheck
    · cases hcheck
      exact ⟨_, rfl⟩
    · cases hcheck
  · cases hcheck

theorem usage_of_forM_checkUse {uses : List OptionUse} {f : Failure}
    (h : ∀ use ∈ uses, '\x00' ∉ use.value) (hcheck : uses.forM (checkUse fs) = .error f) :
    ∃ error, f = .usage error := by
  induction uses with
  | nil => cases hcheck
  | cons use rest ih =>
    obtain huse | ⟨_, -, hcheck⟩ := except_bind_eq_error_iff.mp hcheck
    · exact usage_of_checkUse (h use List.mem_cons_self) huse
    · exact ih (fun u hu => h u (List.mem_cons_of_mem use hu)) hcheck

theorem usage_of_checkOperands {names operands : List Text} {f : Failure}
    (hcheck : checkOperands names operands = .error f) : ∃ error, f = .usage error := by
  fun_induction checkOperands names operands with
  | case1 => cases hcheck
  | case2 extra =>
    cases hcheck
    exact ⟨_, rfl⟩
  | case3 name names hoptional => cases hcheck
  | case4 name names hneeded =>
    cases hcheck
    exact ⟨_, rfl⟩
  | case5 name names operand operands ih => exact ih hcheck

variable {arguments : List Text} (h : ∀ argument ∈ arguments, '\x00' ∉ argument)
include h

/-- Arguments without null characters are either read or refused. -/
theorem Preferences.usage_of_read {f : Failure}
    (hread : Preferences.read fs arguments = .error f) : ∃ error, f = .usage error := by
  rw [Preferences.read] at hread
  split at hread
  · cases hread
    exact ⟨_, rfl⟩
  · rename_i s hscan
    obtain ⟨huses, -⟩ := not_mem_of_scanFrom h hscan
    split at hread
    · cases hread
    · cases hcheck : s.decisive.forM (checkUse fs) with
      | ok u =>
        rw [hcheck] at hread
        cases hread
      | error f' =>
        rw [hcheck] at hread
        cases hread
        exact usage_of_forM_checkUse (fun use huse => not_mem_of_mem_decisive huses huse) hcheck

theorem Preferences.not_mem_of_read {p : Preferences} {rest : List Text}
    (hread : Preferences.read fs arguments = .ok (.action (p, rest))) :
    ∀ argument ∈ rest, '\x00' ∉ argument := by
  rw [Preferences.read] at hread
  split at hread
  · cases hread
  · rename_i s hscan
    obtain ⟨-, hoperands⟩ := not_mem_of_scanFrom h hscan
    split at hread
    · cases hread
    · obtain ⟨_, -, heq⟩ := except_map_eq_ok_iff.mp hread
      cases heq
      exact hoperands

theorem Request.usage_of_read {name : CommandName} {f : Failure}
    (hread : Request.read fs name arguments = .error f) : ∃ error, f = .usage error := by
  rw [Request.read] at hread
  split at hread
  · cases hread
    exact ⟨_, rfl⟩
  · rename_i s hscan
    obtain ⟨huses, -⟩ := not_mem_of_scanFrom h hscan
    split at hread
    · cases hread
    · obtain hcheck | ⟨_, -, hread⟩ := except_bind_eq_error_iff.mp hread
      · exact usage_of_forM_checkUse (fun use huse => not_mem_of_mem_decisive huses huse) hcheck
      · obtain hoperands | ⟨_, -, hread⟩ := except_bind_eq_error_iff.mp hread
        · exact usage_of_checkOperands hoperands
        · cases hread

theorem Request.not_mem_of_read {r : RunRequest}
    (hread : Request.read fs .run arguments = .ok (.action (.run r))) :
    ∀ path, r.file = some path → '\x00' ∉ path := by
  rw [Request.read] at hread
  split at hread
  · cases hread
  · rename_i s hscan
    obtain ⟨-, hoperands⟩ := not_mem_of_scanFrom h hscan
    split at hread
    · cases hread
    · obtain ⟨_, -, hread⟩ := except_bind_eq_ok_iff.mp hread
      obtain ⟨_, -, hread⟩ := except_bind_eq_ok_iff.mp hread
      cases hread
      intro path hpath
      have hoperand := (Option.filter_eq_some_iff.mp hpath).1
      exact hoperands path (List.mem_of_getElem? hoperand)

end Null

end LinePipe.CommandLine
