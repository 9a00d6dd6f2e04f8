import LinePipe.Proofs.Files.Tree

/-!
# Files seen alike

Two views of files can be told apart at a path only if it leads to a place where they differ. Where
one of them has a file and the other a file with another content, or nothing, all other paths lead
to the same places in both.

## Main definitions

- `Files.SameFileAt`: two views have the same file at a path, or none
- `Files.DifferOnlyAt`: two views differ in one file only
- `Files.withFault`: the same files with another failure to come

## Main statements

- `Files.DifferOnlyAt.isDirectory_eq`: the same paths lead to directories
- `Files.DifferOnlyAt.sameFileAt`: all paths but those that lead to the place have the same file
-/

namespace LinePipe

namespace FileTree

/-- A path that leads nowhere, though it is not too long. -/
def LeadsNowhere (walked : Except AccessCause (List Text)) : Prop :=
  ∃ cause, walked = .error cause ∧ cause ≠ .nameTooLong

/-- The last name on a way is that of the place to which it leads. -/
theorem getLast?_of_walk {tree : FileTree} {start names place : List Text} {name : Text}
    (hname : name ≠ ['.', '.']) (h : tree.walk start (names ++ [name]) = .ok place) :
    place.getLast? = some name := by
  have hup : (name == ['.', '.']) = false := beq_eq_false_iff_ne.mpr hname
  induction names generalizing start with
  | nil =>
    rw [List.nil_append, walk] at h
    split at h
    · cases h
    · cases h
    · simp only [hup, Bool.false_eq_true, if_false] at h
      split at h
      · cases h
      · cases h
        exact List.getLast?_concat
  | cons first rest ih =>
    rw [List.cons_append, walk] at h
    split at h
    · cases h
    · cases h
    · split at h
      · exact ih h
      · split at h
        · cases h
        · exact ih h

end FileTree

namespace Files

/-- A path is a file in both views or in none, and the file is read in the same way. -/
structure SameFileAt (fs fs' : Files) (p : Path) : Prop where
  isFile_eq : fs'.isFile p = fs.isFile p
  read_eq : fs.isFile p = .ok true → fs'.read p = fs.read p

/-- Two views are the same but for one place, which is no directory in either. -/
structure DifferOnlyAt (fs fs' : Files) (place : List Text) : Prop where
  top_eq : fs'.top = fs.top
  current_eq : fs'.current = fs.current
  fault_eq : fs'.fault = fs.fault
  elsewhere : ∀ q, q ≠ place → fs'.tree.node? q = fs.tree.node? q
  not_directory : fs.tree.node? place ≠ some .directory
  not_directory' : fs'.tree.node? place ≠ some .directory

/-- The same files with another failure to come. -/
def withFault (fs : Files) (fault : Option OpenFault) : Files :=
  { fs with fault }

/-- Reading does not notice a failure that is to come when a file is opened for writing. -/
theorem read_withFault {fs : Files} {fault : Option OpenFault} {p : Path}
    (h : (fs.withFault fault).fault? p .reading = fs.fault? p .reading) :
    (fs.withFault fault).read p = fs.read p := by
  rw [read, read, opened, opened, h]
  rfl

theorem getLast?_of_locate {fs : Files} {directory : Path} {name : Text} {place : List Text}
    (hname : name ≠ ['.', '.']) (h : fs.locate (directory.child name) = .ok place) :
    place.getLast? = some name := by
  rw [locate] at h
  split at h
  · cases h
  · split at h
    · cases h
    · exact FileTree.getLast?_of_walk hname h

theorem differOnlyAt_self {fs : Files} {place : List Text} {content : Octets}
    (h : fs.tree.node? place = some (.file content)) : fs.DifferOnlyAt fs place where
  top_eq := rfl
  current_eq := rfl
  fault_eq := rfl
  elsewhere _ _ := rfl
  not_directory := by simp [h]
  not_directory' := by simp [h]

/-- Writing to a file changes nothing but that file. -/
theorem differOnlyAt_put {fs : Files} {place : List Text} {old : Octets}
    (h : fs.tree.node? place = some (.file old)) (new : Octets) :
    fs.DifferOnlyAt { fs with tree := fs.tree.put place new } place where
  top_eq := rfl
  current_eq := rfl
  fault_eq := rfl
  elsewhere q hq := by simp only [FileTree.node?_put h, hq, if_false]
  not_directory := by simp [h]
  not_directory' := by simp [FileTree.node?_put h]

namespace DifferOnlyAt

variable {fs fs' : Files} {place : List Text}

/-- Names that lead on in one tree lead to the same place in the other. -/
theorem walk_eq (h : fs.DifferOnlyAt fs' place) (start names : List Text) :
    fs'.tree.walk start names = fs.tree.walk start names ∨
      FileTree.LeadsNowhere (fs'.tree.walk start names) ∧
        FileTree.LeadsNowhere (fs.tree.walk start names) := by
  induction names generalizing start with
  | nil => exact .inl rfl
  | cons name rest ih =>
    -- The walk stops where the trees differ, since there is no directory.
    have hstops {tree : FileTree} (hnode : tree.node? place ≠ some .directory) :
        FileTree.LeadsNowhere (tree.walk place (name :: rest)) := by
      rw [FileTree.walk]
      cases hplace : tree.node? place with
      | none => exact ⟨.missing, rfl, by decide⟩
      | some node =>
        cases node with
        | directory => exact absurd hplace hnode
        | file content => exact ⟨.notDirectory, rfl, by decide⟩
    by_cases hstart : start = place
    · subst hstart
      exact .inr ⟨hstops h.not_directory', hstops h.not_directory⟩
    · rw [FileTree.walk, FileTree.walk, h.elsewhere start hstart]
      cases fs.tree.node? start with
      | none => exact .inl rfl
      | some node =>
        cases node with
        | file content => exact .inl rfl
        | directory =>
          dsimp only
          split
          · exact ih _
          · split
            · exact .inl rfl
            · exact ih _

theorem locate_eq (h : fs.DifferOnlyAt fs' place) (p : Path) :
    fs'.locate p = fs.locate p ∨
      FileTree.LeadsNowhere (fs'.locate p) ∧ FileTree.LeadsNowhere (fs.locate p) := by
  have hstart : fs'.start p = fs.start p := by rw [start, start, h.current_eq]
  have houtside : fs'.isOutside p = fs.isOutside p := by rw [isOutside, isOutside, h.top_eq]
  rw [locate, locate, hstart, houtside]
  split
  · exact .inl rfl
  · split
    · exact .inl rfl
    · exact h.walk_eq _ _

theorem isDirectory_eq (h : fs.DifferOnlyAt fs' place) (p : Path) :
    fs'.isDirectory p = fs.isDirectory p := by
  rw [isDirectory, isDirectory]
  obtain hlocate | ⟨⟨cause', hcause', -⟩, cause, hcause, -⟩ := h.locate_eq p
  · rw [hlocate]
    cases fs.locate p with
    | error cause => rfl
    | ok q =>
      by_cases hq : q = place
      · subst hq
        have h1 : (fs.tree.node? q == some .directory) = false :=
          beq_eq_false_iff_ne.mpr h.not_directory
        have h2 : (fs'.tree.node? q == some .directory) = false :=
          beq_eq_false_iff_ne.mpr h.not_directory'
        simp only [h1, h2]
      · simp only [h.elsewhere q hq]
  · rw [hcause', hcause]

theorem sameFileAt (h : fs.DifferOnlyAt fs' place) {p : Path} (hp : fs.locate p ≠ .ok place) :
    fs.SameFileAt fs' p := by
  have hfault : fs'.fault? p .reading = fs.fault? p .reading := by
    rw [fault?, fault?, h.fault_eq]
  obtain hlocate | ⟨⟨cause', hcause', hne'⟩, cause, hcause, hne⟩ := h.locate_eq p
  · cases hq : fs.locate p with
    | error cause =>
      constructor
      · simp only [isFile, hlocate, hq]
      · intro _
        simp only [read, opened, hfault, hlocate, hq]
        cases fs.fault? p .reading <;> cases holdsNull p <;> rfl
    | ok q =>
      have hplace : q ≠ place := by
        rintro rfl
        exact hp hq
      have hnode := h.elsewhere q hplace
      constructor
      · simp only [isFile, hlocate, hq, hnode]
      · intro _
        simp only [read, opened, hfault, hlocate, hq]
        cases fs.fault? p .reading <;> cases holdsNull p <;>
          simp only [bind, Except.bind, if_true, Bool.false_eq_true, if_false, hnode]
  -- The causes may differ, but neither is one for which the question is not answered.
  · have hlong : (cause == .nameTooLong) = false := beq_eq_false_iff_ne.mpr hne
    have hlong' : (cause' == .nameTooLong) = false := beq_eq_false_iff_ne.mpr hne'
    have hno : fs.isFile p = .ok false := by simp [isFile, hcause, hlong]
    have hno' : fs'.isFile p = .ok false := by simp [isFile, hcause', hlong']
    constructor
    · rw [hno, hno']
    · rw [hno]
      intro hfile
      cases hfile

end DifferOnlyAt

end Files

end LinePipe
