import LinePipe.Text.Case

/-!
# What case mappings leave of a character

A case mapping takes a character to one or more others. No character is mapped to nothing, and only
the null character to null characters.

## Main definitions

- `Text.CaseRun.shift`: the code point that a run takes a code point to
- `Text.CaseMap.Weighs`: every image of a mapping holds a character other than the null character

## Main statements

- `Text.CaseMap.Weighs.exists_mem_image`: such a mapping, at the characters that it lists
- `Text.exists_mem_foldChar`: a character is never folded away
-/

namespace LinePipe.Text

/-! ## Images are in the tables -/

theorem CaseRun.of_lookup_eq_some {runs : List CaseRun} {n : Nat} {d : Char}
    (h : CaseRun.lookup runs n = some d) : ∃ run ∈ runs, run.has n ∧ d = run.image n := by
  induction runs with
  | nil => cases h
  | cons run rest ih =>
    rw [CaseRun.lookup] at h
    split at h
    · cases h
    · split at h
      · rename_i hhas
        exact ⟨run, List.mem_cons_self, hhas, (Option.some.inj h).symm⟩
      · obtain ⟨other, hmem, hother⟩ := ih h
        exact ⟨other, List.mem_cons_of_mem run hmem, hother⟩

theorem CaseMap.of_expand?_eq_some {expansions : List (Nat × List Nat)} {n : Nat}
    {image : List Char} (h : CaseMap.expand? expansions n = some image) :
    ∃ e ∈ expansions, e.1 = n ∧ image = e.2.map Char.ofNat := by
  induction expansions with
  | nil => cases h
  | cons e rest ih =>
    obtain ⟨m, expansion⟩ := e
    rw [CaseMap.expand?] at h
    split at h
    · cases h
    · split at h
      · rename_i hcode
        exact ⟨_, List.mem_cons_self, (eq_of_beq hcode).symm, (Option.some.inj h).symm⟩
      · obtain ⟨other, hmem, hother⟩ := ih h
        exact ⟨other, List.mem_cons_of_mem _ hmem, hother⟩

/-- A mapping expands a character or shifts it within a run. -/
theorem CaseMap.of_image?_eq_some {m : CaseMap} {c : Char} {image : List Char}
    (h : m.image? c = some image) :
    (∃ e ∈ m.expansions, e.1 = c.toNat ∧ image = e.2.map Char.ofNat) ∨
      ∃ run ∈ m.runs, run.has c.toNat ∧ image = [run.image c.toNat] := by
  rw [CaseMap.image?] at h
  split at h
  · rename_i hexpand
    cases h
    exact .inl (CaseMap.of_expand?_eq_some hexpand)
  · obtain ⟨d, hlookup, rfl⟩ := Option.map_eq_some_iff.mp h
    obtain ⟨run, hrun, hhas, rfl⟩ := CaseRun.of_lookup_eq_some hlookup
    exact .inr ⟨run, hrun, hhas, rfl⟩

/-! ## Images have weight -/

/-- All code points of a run are mapped to characters other than the null character. -/
def CaseRun.Weighs (run : CaseRun) : Prop :=
  0 < run.first + run.offset ∧ run.last + run.offset < 0xD800 ∨
    0xDFFF < run.first + run.offset ∧ run.last + run.offset < 0x110000

instance (run : CaseRun) : Decidable run.Weighs :=
  inferInstanceAs (Decidable (_ ∨ _))

/-- The code point that a run takes a code point to. -/
def CaseRun.shift (run : CaseRun) (n : Nat) : Nat :=
  (n + run.offset).toNat

theorem CaseRun.Weighs.toNat_image {run : CaseRun} (h : run.Weighs) {n : Nat}
    (hhas : run.has n) : (run.image n).toNat = run.shift n := by
  simp only [CaseRun.has, Bool.and_eq_true, decide_eq_true_eq] at hhas
  obtain ⟨⟨hfirst, hlast⟩, -⟩ := hhas
  have hvalid : (run.shift n).isValidChar := by
    unfold Nat.isValidChar CaseRun.shift
    unfold CaseRun.Weighs at h
    omega
  change (Char.ofNat (run.shift n)).toNat = run.shift n
  rw [Char.ofNat, dif_pos hvalid]
  rfl

/-- A run keeps the distances between its code points. -/
theorem CaseRun.Weighs.shift_eq {run : CaseRun} (h : run.Weighs) {n : Nat} (hhas : run.has n) :
    run.shift n = run.shift run.first + (n - run.first) ∧ 0 < run.shift n ∧
      run.shift n ≤ run.shift run.last := by
  simp only [CaseRun.has, Bool.and_eq_true, decide_eq_true_eq] at hhas
  obtain ⟨⟨hfirst, hlast⟩, -⟩ := hhas
  unfold CaseRun.Weighs at h
  unfold CaseRun.shift
  omega

theorem CaseRun.Weighs.image_ne {run : CaseRun} (h : run.Weighs) {n : Nat} (hhas : run.has n) :
    run.image n ≠ '\x00' := by
  intro hnull
  have hzero : (run.image n).toNat = 0 := congrArg Char.toNat hnull
  have hpos := (h.shift_eq hhas).2.1
  rw [h.toNat_image hhas] at hzero
  omega

/-- A case mapping has weight if every image holds a character other than the null character. -/
def CaseMap.Weighs (m : CaseMap) : Prop :=
  (∀ e ∈ m.expansions, ∃ code ∈ e.2, Char.ofNat code ≠ '\x00') ∧ ∀ run ∈ m.runs, run.Weighs

theorem CaseMap.Weighs.exists_mem_image {m : CaseMap} (h : m.Weighs) {c : Char} {image : List Char}
    (himage : m.image? c = some image) : ∃ d ∈ image, d ≠ '\x00' := by
  obtain ⟨e, he, -, rfl⟩ | ⟨run, hrun, hhas, rfl⟩ := CaseMap.of_image?_eq_some himage
  · obtain ⟨code, hcode, hne⟩ := h.1 e he
    exact ⟨_, List.mem_map_of_mem hcode, hne⟩
  · exact ⟨_, List.mem_singleton_self _, (h.2 run hrun).image_ne hhas⟩

instance (m : CaseMap) : Decidable m.Weighs :=
  inferInstanceAs (Decidable (_ ∧ _))

theorem weighs_lowerMap : lowerMap.Weighs := by
  decide +kernel

theorem weighs_foldMap : foldMap.Weighs := by
  decide +kernel

/-- A character is never folded away. -/
theorem exists_mem_foldChar {c : Char} (h : c ≠ '\x00') : ∃ d ∈ foldChar c, d ≠ '\x00' := by
  rw [foldChar]
  cases hfold : foldMap.image? c with
  | some image => exact weighs_foldMap.exists_mem_image hfold
  | none =>
    rw [Option.getD_none, lowerChar]
    cases hlower : lowerMap.image? c with
    | some image => exact weighs_lowerMap.exists_mem_image hlower
    | none => exact ⟨c, List.mem_singleton_self c, h⟩

end LinePipe.Text
