import LinePipe.Pipeline.Stage
import LinePipe.Proofs.Distinct
import LinePipe.Proofs.Outcome

/-!
# First occurrences

Of lines that occur several times the stage that drops repeated lines keeps the first occurrence,
and it leaves what it keeps in order. So lines that come behind others lose what they would lose
alone, and besides what occurs before them.

## Main definitions

- `StandsFirst`: an element stands at a place of a list, and at none before it
- `firsts`: the elements at such places
- `Stage.KeepsFirsts`: a stage keeps the first occurrence of each line

## Main statements

- `eraseDups_eq_firsts`: dropping repeated elements keeps those that stand first
- `Stage.uniq_keepsFirsts`: this for the lines of a stage, whatever they are
-/

namespace LinePipe

section

variable {α : Type}

/-- The element at a place of a list is not the element at any place before it. -/
def StandsFirst (l : List α) (i : Nat) : Prop :=
  ∀ j < i, l[j]? ≠ l[i]?

instance [DecidableEq α] (l : List α) (i : Nat) : Decidable (StandsFirst l i) :=
  inferInstanceAs (Decidable (∀ j < i, l[j]? ≠ l[i]?))

/-- The elements of a list that equal no element before them, in their order. -/
def firsts [DecidableEq α] (l : List α) : List α :=
  ((List.range l.length).filter fun i => StandsFirst l i).filterMap fun i => l[i]?

/-- Whether an element stands first is seen before anything is put behind it. -/
theorem standsFirst_concat_iff {l : List α} {i : Nat} (hi : i < l.length) (a : α) :
    StandsFirst (l ++ [a]) i ↔ StandsFirst l i := by
  refine forall₂_congr fun j hj => ?_
  have hj : j < l.length := by omega
  rw [List.getElem?_append_left hi, List.getElem?_append_left hj]

/-- A last element stands first if it is not among those before it. -/
theorem standsFirst_concat_length_iff (l : List α) (a : α) :
    StandsFirst (l ++ [a]) l.length ↔ a ∉ l := by
  rw [StandsFirst, List.getElem?_concat_length, List.mem_iff_getElem?, not_exists]
  constructor
  · intro h j hj
    obtain ⟨hlt, -⟩ := List.getElem?_eq_some_iff.mp hj
    exact h j hlt (by rw [List.getElem?_append_left hlt, hj])
  · intro h j hlt
    rw [List.getElem?_append_left hlt]
    exact h j

variable [DecidableEq α] [BEq α] [LawfulBEq α]

theorem firsts_concat (l : List α) (a : α) :
    firsts (l ++ [a]) = firsts l ++ if a ∈ l then [] else [a] := by
  have hplaces : ((List.range l.length).filter fun i => StandsFirst (l ++ [a]) i) =
      (List.range l.length).filter fun i => StandsFirst l i := by
    refine List.filter_congr fun i hi => ?_
    simp only [standsFirst_concat_iff (List.mem_range.mp hi) a]
  have helements : ∀ i ∈ (List.range l.length).filter fun i => StandsFirst l i,
      (l ++ [a])[i]? = l[i]? := by
    intro i hi
    exact List.getElem?_append_left (List.mem_range.mp (List.mem_of_mem_filter hi))
  rw [firsts, List.length_append, List.length_singleton, List.range_succ, List.filter_append,
    List.filterMap_append, hplaces, List.filterMap_congr helements, List.filter_singleton]
  simp only [standsFirst_concat_length_iff, firsts]
  by_cases ha : a ∈ l
  · simp [ha]
  · simp [ha]

/-- Dropping repeated elements keeps exactly those that stand first. -/
theorem eraseDups_eq_firsts (l : List α) : l.eraseDups = firsts l := by
  induction l using List.reverseRecOn with
  | nil => rfl
  | append_singleton l a ih => rw [eraseDups_concat, firsts_concat, ih]

end

namespace Stage

/-- A stage keeps the first occurrence of each line, and nothing else. -/
structure KeepsFirsts (stage : Stage) : Prop where
  run_eq : ∀ lines, stage.run lines = pure (firsts lines)
  nodup : ∀ lines kept, stage.run lines = pure kept → kept.Nodup
  mem_iff : ∀ lines kept, stage.run lines = pure kept → ∀ line, line ∈ kept ↔ line ∈ lines
  sublist : ∀ lines kept, stage.run lines = pure kept → kept.Sublist lines
  /-- Behind other lines those are kept that would be kept alone and are not among the others. -/
  append : ∀ lines more, stage.run (lines ++ more) = do
    let kept ← stage.run lines
    let keptOfMore ← stage.run more
    return kept ++ keptOfMore.filter fun line => line ∉ lines
  again : ∀ lines, (stage.run lines >>= stage.run) = stage.run lines
  twice : ∀ lines, stage.run (lines ++ lines) = stage.run lines

theorem run_uniq (lines : List Text) : uniq.run lines = pure lines.eraseDups :=
  rfl

theorem run_uniq_eq_pure_iff {lines kept : List Text} :
    uniq.run lines = pure kept ↔ lines.eraseDups = kept := by
  rw [run_uniq]
  constructor
  · intro h
    have hresult := congrArg Outcome.result h
    rwa [Outcome.result_pure, Outcome.result_pure, Except.ok.injEq] at hresult
  · rintro rfl
    rfl

/-- The stage that drops repeated lines keeps the first occurrence of each line. -/
theorem uniq_keepsFirsts : uniq.KeepsFirsts where
  run_eq lines := run_uniq_eq_pure_iff.mpr (eraseDups_eq_firsts lines)
  nodup lines kept h := by
    rw [← run_uniq_eq_pure_iff.mp h]
    exact nodup_eraseDups lines
  mem_iff lines kept h line := by
    rw [← run_uniq_eq_pure_iff.mp h]
    exact List.mem_eraseDups
  sublist lines kept h := by
    rw [← run_uniq_eq_pure_iff.mp h]
    exact eraseDups_sublist lines
  append lines more := by
    simp only [run_uniq, Outcome.value_bind]
    rw [eraseDups_append]
  again lines := by
    rw [run_uniq, Outcome.value_bind, run_uniq, eraseDups_eraseDups]
  twice lines := by
    have hnone : (lines.eraseDups.filter fun line => line ∉ lines) = [] := by
      rw [List.filter_eq_nil_iff]
      intro line hline
      simp [List.mem_eraseDups.mp hline]
    rw [run_uniq, run_uniq, eraseDups_append, hnone, List.append_nil]

end Stage

end LinePipe
