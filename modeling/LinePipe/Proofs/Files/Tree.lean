import LinePipe.Files.Tree
import LinePipe.Proofs.Outcome

/-!
# Reading what was written

Writing to a file changes the content of that file only: every path leads to the same place as
before, and every other place holds what it held.

## Main statements

- `FileTree.node?_put`: what stands in a tree after a file got a new content
- `FileTree.walk_put`: paths lead to the same places
- `Files.read_write`: a file holds what was written to it
-/

namespace LinePipe

namespace FileTree

variable {tree : FileTree} {place : List Text} {old : Octets}

/-- Where a file stands, the tree has an entry for it. -/
theorem lookup_of_node?_file (h : tree.node? place = some (.file old)) :
    tree.lookup place = some (.file old) := by
  rw [node?] at h
  cases hlookup : tree.lookup place with
  | some node =>
    rw [hlookup] at h
    exact h
  | none =>
    simp only [hlookup] at h
    split at h <;> cases h

/-- The entry of the place is replaced, and the others stay. -/
theorem lookup_put (tree : FileTree) (place : List Text) (content : Octets) (q : List Text) :
    (tree.put place content).lookup q =
      if q = place then some (.file content) else tree.lookup q := by
  induction tree with
  | nil =>
    by_cases hq : q = place
    · subst hq
      simp [put]
    · simp [put, hq]
  | cons entry rest ih =>
    obtain ⟨p, node⟩ := entry
    by_cases hp : p = place
    · subst hp
      by_cases hq : q = p
      · subst hq
        simp [put]
      · simp [put, List.lookup_cons, hq, beq_eq_false_iff_ne.mpr hq]
    · by_cases hq : q = p
      · subst hq
        simp [put, hp]
      · simp [put, List.lookup_cons, hp, beq_eq_false_iff_ne.mpr hq, ih]

/-- A file with a new content stands at the same place. -/
theorem map_fst_put (h : tree.node? place = some (.file old)) (content : Octets) :
    (tree.put place content).map Prod.fst = tree.map Prod.fst := by
  have hlookup := lookup_of_node?_file h
  -- For the rest of the tree only the lookup is known, not what `node?` gives.
  clear h
  induction tree with
  | nil => cases hlookup
  | cons entry rest ih =>
    obtain ⟨p, node⟩ := entry
    by_cases hp : p = place
    · simp [put, hp]
    · have hp' : (place == p) = false := beq_eq_false_iff_ne.mpr (Ne.symm hp)
      rw [List.lookup_cons, hp'] at hlookup
      simp [put, hp, ih hlookup]

/-- A new content of a file is all that changes in a tree. -/
theorem node?_put (h : tree.node? place = some (.file old)) (content : Octets) (q : List Text) :
    (tree.put place content).node? q =
      if q = place then some (.file content) else tree.node? q := by
  have hbelow (t : FileTree) : t.any (fun entry => q.isPrefixOf entry.1) =
      (t.map Prod.fst).any fun p => q.isPrefixOf p := by
    rw [List.any_map]
    rfl
  by_cases hq : q = place
  · simp only [node?, lookup_put, hq, if_true]
  · simp only [node?, lookup_put, hq, if_false, hbelow, map_fst_put h]

/-- Paths lead to the same places when a file gets a new content. -/
theorem walk_put (h : tree.node? place = some (.file old)) (content : Octets) (start : List Text)
    (names : List Text) :
    (tree.put place content).walk start names = tree.walk start names := by
  induction names generalizing start with
  | nil => rfl
  | cons name rest ih =>
    rw [walk, walk, node?_put h]
    by_cases hstart : start = place
    · subst hstart
      simp only [if_true, h]
    · simp only [hstart, if_false, ih]

end FileTree

namespace Files

variable {fs fs' : Files} {p : Path} {old new : Octets}

/-- A file that can be read stands at the place that its path leads to. -/
theorem of_read_eq_ok (h : fs.read p = .ok old) :
    ∃ place, fs.opened p .reading = .ok place ∧ fs.tree.node? place = some (.file old) := by
  obtain ⟨place, hopened, hnode⟩ := except_bind_eq_ok_iff.mp h
  refine ⟨place, hopened, ?_⟩
  split at hnode
  · cases hnode
  · cases hnode
  · rename_i content hcontent
    cases hnode
    exact hcontent

/-- What was written stands at the place that the path leads to, and nothing else was touched. -/
theorem of_write_eq_ok (h : fs.write p new = .ok fs') :
    ∃ place, fs.opened p .writing = .ok place ∧
      fs' = { fs with tree := fs.tree.put place new } := by
  obtain ⟨place, hopened, hput⟩ := except_bind_eq_ok_iff.mp h
  refine ⟨place, hopened, ?_⟩
  split at hput
  · cases hput
  · cases hput
    rfl

/-- A path leads to the same place whatever it is opened for. -/
theorem locate_of_opened {mode : OpenMode} {place : List Text}
    (h : fs.opened p mode = .ok place) :
    fs.fault? p mode = none ∧ holdsNull p = false ∧ fs.locate p = .ok place := by
  rw [opened] at h
  cases hfault : fs.fault? p mode with
  | some cause => simp only [hfault, reduceCtorEq] at h
  | none =>
    simp only [hfault] at h
    split at h
    · cases h
    · rename_i hnull
      refine ⟨rfl, Bool.eq_false_iff.mpr hnull, ?_⟩
      cases hlocate : fs.locate p with
      | error cause => simp only [hlocate, reduceCtorEq] at h
      | ok q =>
        simp only [hlocate] at h
        rw [Except.ok.inj h]

theorem holdsNull_of_opened {mode : OpenMode} (h : fs.opened p mode = .error .nullInPath) :
    holdsNull p = true := by
  rw [opened] at h
  split at h
  · cases h
  · split at h
    · assumption
    · split at h <;> cases h

theorem holdsNull_of_read (h : fs.read p = .error .nullInPath) : holdsNull p = true := by
  rw [read] at h
  cases hopened : fs.opened p .reading with
  | error e =>
    rw [hopened] at h
    cases h
    exact holdsNull_of_opened hopened
  | ok place =>
    simp only [hopened, bind, Except.bind] at h
    split at h <;> cases h

theorem holdsNull_of_write (h : fs.write p new = .error .nullInPath) : holdsNull p = true := by
  rw [write] at h
  cases hopened : fs.opened p .writing with
  | error e =>
    rw [hopened] at h
    cases h
    exact holdsNull_of_opened hopened
  | ok place =>
    simp only [hopened, bind, Except.bind] at h
    split at h <;> cases h

/-- A file that could be read before holds what was written to it. -/
theorem read_write (hread : fs.read p = .ok old) (hwrite : fs.write p new = .ok fs') :
    fs'.read p = .ok new := by
  obtain ⟨place, hopened, hnode⟩ := of_read_eq_ok hread
  obtain ⟨place', hopened', rfl⟩ := of_write_eq_ok hwrite
  obtain ⟨hfault, hnull, hlocate⟩ := locate_of_opened hopened
  obtain ⟨-, -, hlocate'⟩ := locate_of_opened hopened'
  rw [hlocate, Except.ok.injEq] at hlocate'
  subst hlocate'
  -- With the new content the path still leads to the same place, and opening it still succeeds.
  have hsame : ({ fs with tree := fs.tree.put place new } : Files).opened p .reading =
      .ok place := by
    have hlocated : ({ fs with tree := fs.tree.put place new } : Files).locate p = .ok place := by
      rw [← hlocate]
      simp only [locate, isOutside, start, FileTree.walk_put hnode]
      rfl
    have hnofault : ({ fs with tree := fs.tree.put place new } : Files).fault? p .reading = none :=
      hfault
    simp only [opened, hnofault, hnull, hlocated, Bool.false_eq_true, if_false]
  have hnew : (fs.tree.put place new).node? place = some (.file new) := by
    rw [FileTree.node?_put hnode, if_pos rfl]
  simp only [read, hsame, bind, Except.bind, hnew]

/-- A file that can be read can be written if it can be opened for that. -/
theorem exists_write (hread : fs.read p = .ok old)
    (hwritable : ∃ place, fs.opened p .writing = .ok place) (new : Octets) :
    ∃ fs', fs.write p new = .ok fs' := by
  obtain ⟨place, hopened, hnode⟩ := of_read_eq_ok hread
  obtain ⟨place', hopened'⟩ := hwritable
  obtain ⟨-, -, hlocate⟩ := locate_of_opened hopened
  obtain ⟨-, -, hlocate'⟩ := locate_of_opened hopened'
  rw [hlocate, Except.ok.injEq] at hlocate'
  subst hlocate'
  refine ⟨{ fs with tree := fs.tree.put place new }, ?_⟩
  simp only [write, hopened', bind, Except.bind, hnode]

end Files

end LinePipe
