import Mathlib.Data.List.Basic
import Mathlib.Data.List.Induction

/-!
# Dropping repeated elements

Facts about `List.eraseDups`, the list without its repeated elements: nothing occurs twice in it, it
is a sublist, and a list without repetitions is left alone. It is the same to choose elements before
or after, and of two lists in a row the second loses besides what occurs in the first.
-/

namespace LinePipe

variable {α : Type} [BEq α] [LawfulBEq α]

/-- Nothing occurs twice once repeated elements are dropped. -/
theorem nodup_eraseDups : ∀ l : List α, l.eraseDups.Nodup
  | [] => List.nodup_nil
  | a :: l => by
    -- The recursion is on what is left of `l` without `a`, which is no longer than `l`.
    have hshort : (l.filter fun b => !b == a).length < (a :: l).length :=
      Nat.lt_succ_of_le (List.length_filter_le _ l)
    rw [List.eraseDups_cons, List.nodup_cons]
    refine ⟨?_, nodup_eraseDups _⟩
    rw [List.mem_eraseDups]
    simp
termination_by l => l.length
decreasing_by exact hshort

omit [LawfulBEq α] in
/-- Dropping repeated elements only takes elements away. -/
theorem eraseDups_sublist : ∀ l : List α, l.eraseDups.Sublist l
  | [] => List.Sublist.slnil
  | a :: l => by
    have hshort : (l.filter fun b => !b == a).length < (a :: l).length :=
      Nat.lt_succ_of_le (List.length_filter_le _ l)
    rw [List.eraseDups_cons]
    exact ((eraseDups_sublist _).trans List.filter_sublist).cons_cons a
termination_by l => l.length
decreasing_by exact hshort

/-- A list without repetitions stays as it is. -/
theorem eraseDups_of_nodup {l : List α} (h : l.Nodup) : l.eraseDups = l := by
  induction l with
  | nil => rfl
  | cons a l ih =>
    obtain ⟨ha, hl⟩ := List.nodup_cons.mp h
    have hkeep : (l.filter fun b => !b == a) = l := by
      rw [List.filter_eq_self]
      intro b hb
      have hne : b ≠ a := fun hba => ha (hba ▸ hb)
      simp [hne]
    rw [List.eraseDups_cons, hkeep, ih hl]

/-- Dropping repeated elements twice is dropping them once. -/
theorem eraseDups_eraseDups (l : List α) : l.eraseDups.eraseDups = l.eraseDups :=
  eraseDups_of_nodup (nodup_eraseDups l)

/-- The distinct elements of two arrangements of the same elements are arrangements of each
other. -/
theorem eraseDups_perm {l l' : List α} (h : l.Perm l') : l.eraseDups.Perm l'.eraseDups := by
  rw [List.perm_ext_iff_of_nodup (nodup_eraseDups l) (nodup_eraseDups l')]
  intro a
  rw [List.mem_eraseDups, List.mem_eraseDups]
  exact h.mem_iff

/-- An element put behind others is kept if it is not among them. -/
theorem eraseDups_concat (l : List α) (a : α) :
    (l ++ [a]).eraseDups = l.eraseDups ++ if a ∈ l then [] else [a] := by
  rw [List.eraseDups_append, List.removeAll, List.filter_singleton]
  by_cases ha : a ∈ l
  · simp [ha]
  · simp [ha, List.eraseDups_cons]

/-- It is the same to choose elements before or after repeated ones are dropped. -/
theorem eraseDups_filter (p : α → Bool) (l : List α) :
    (l.filter p).eraseDups = l.eraseDups.filter p := by
  induction l using List.reverseRecOn with
  | nil => rfl
  | append_singleton l a ih =>
    rw [List.filter_append, eraseDups_concat, List.filter_append, ← ih, List.filter_singleton]
    cases hp : p a with
    | false =>
      have hnone : (if a ∈ l then [] else [a]).filter p = [] := by
        split <;> simp [hp]
      rw [hnone, cond_false, List.append_nil, List.append_nil]
    | true =>
      have hkept : (if a ∈ l then [] else [a]).filter p = if a ∈ l then [] else [a] := by
        split <;> simp [hp]
      rw [hkept, cond_true, eraseDups_concat]
      simp only [List.mem_filter, hp, and_true]

/-- Behind other elements only those are kept that are not among them. -/
theorem eraseDups_append (l l' : List α) :
    (l ++ l').eraseDups = l.eraseDups ++ l'.eraseDups.filter fun a => a ∉ l := by
  rw [List.eraseDups_append, List.removeAll, eraseDups_filter]
  congr 1
  refine List.filter_congr fun a _ => ?_
  simp

end LinePipe
