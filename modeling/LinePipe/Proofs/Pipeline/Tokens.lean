import LinePipe.Pipeline.Token

/-!
# Tokens of joined texts

Two pipeline texts with a pipe character between them have the tokens of the first followed by those
of the second, whose places are counted on.

## Main statements

- `Text.splitWhere_append`: the pieces of two texts with a separator between them
- `StageToken.scan_pipe`: the tokens of two pipeline texts with a pipe character between them
-/

namespace LinePipe

namespace Text

variable {sep : Char → Bool}

/-- Every text has a first piece. -/
theorem splitWhere_ne_nil (sep : Char → Bool) (t : Text) : splitWhere sep t ≠ [] := by
  cases t with
  | nil => exact List.cons_ne_nil _ _
  | cons c rest =>
    rw [splitWhere]
    split
    · exact List.cons_ne_nil _ _
    · split <;> exact List.cons_ne_nil _ _

/-- A character that separates nothing goes to the front of the first piece. -/
theorem splitWhere_cons {c : Char} (h : sep c = false) (t : Text) :
    ∃ piece pieces, splitWhere sep t = piece :: pieces ∧
      splitWhere sep (c :: t) = (c :: piece) :: pieces := by
  obtain ⟨piece, pieces, ht⟩ := List.exists_cons_of_ne_nil (splitWhere_ne_nil sep t)
  refine ⟨piece, pieces, ht, ?_⟩
  simp only [splitWhere, h, Bool.false_eq_true, if_false, ht]

/-- The pieces of two texts with a separator between them are those of the one and those of the
other. -/
theorem splitWhere_append {s : Char} (hs : sep s = true) (a b : Text) :
    splitWhere sep (a ++ s :: b) = splitWhere sep a ++ splitWhere sep b := by
  induction a with
  | nil => simp only [List.nil_append, splitWhere, hs, if_true, List.cons_append]
  | cons c a ih =>
    cases hc : sep c with
    | true => simp only [List.cons_append, splitWhere, hc, if_true, ih]
    | false =>
      obtain ⟨piece, pieces, hpieces, hcons⟩ := splitWhere_cons hc a
      obtain ⟨piece', pieces', hpieces', hcons'⟩ := splitWhere_cons hc (a ++ s :: b)
      rw [ih, hpieces, List.cons_append, List.cons.injEq] at hpieces'
      obtain ⟨rfl, rfl⟩ := hpieces'
      rw [List.cons_append, hcons', hcons, List.cons_append]

end Text

namespace StageToken

/-- The same token `k` places later. -/
def later (k : Nat) (token : StageToken) : StageToken :=
  { token with position := token.position + k }

theorem length_ofSegments (position : Nat) (segments : List Text) :
    (ofSegments position segments).length = segments.length := by
  induction segments generalizing position with
  | nil => rfl
  | cons segment rest ih => simp only [ofSegments, List.length_cons, ih]

theorem ofSegment_add (position k : Nat) (segment : Text) :
    ofSegment (position + k) segment = (ofSegment position segment).later k := by
  simp only [ofSegment, later]
  split <;> rfl

/-- Segments that are counted from `k` places further on give the same tokens `k` places later. -/
theorem ofSegments_add (position k : Nat) (segments : List Text) :
    ofSegments (position + k) segments = (ofSegments position segments).map (later k) := by
  induction segments generalizing position with
  | nil => rfl
  | cons segment rest ih =>
    have hposition : position + k + 1 = position + 1 + k := by omega
    rw [ofSegments, ofSegments, List.map_cons, ofSegment_add, hposition, ih]

theorem ofSegments_append (position : Nat) (front back : List Text) :
    ofSegments position (front ++ back) =
      ofSegments position front ++ ofSegments (position + front.length) back := by
  induction front generalizing position with
  | nil => rfl
  | cons segment front ih =>
    have hposition : position + 1 + front.length = position + (front.length + 1) := by omega
    simp only [List.cons_append, ofSegments, List.length_cons, ih, hposition]

theorem scan_of_not_blank {text : Text} (h : ¬ Text.isAllBlank text) :
    scan text = ofSegments 1 (Text.splitOn pipeChar text) := by
  rw [scan, if_neg h]

/-- The pipe character is not whitespace, so a text with one is never taken for blank. -/
theorem not_isAllBlank_pipe (a b : Text) : ¬ Text.isAllBlank (a ++ pipeChar :: b) := by
  have hpipe : Text.isBlank pipeChar = false := by decide
  simp [Text.isAllBlank, hpipe]

/-- The tokens of two texts that are not blank, with a pipe character between them: those of the
first, then those of the second, counted on. -/
theorem scan_pipe {a b : Text} (ha : ¬ Text.isAllBlank a) (hb : ¬ Text.isAllBlank b) :
    scan (a ++ pipeChar :: b) = scan a ++ (scan b).map (later (scan a).length) := by
  have hpieces : Text.splitOn pipeChar (a ++ pipeChar :: b) =
      Text.splitOn pipeChar a ++ Text.splitOn pipeChar b :=
    Text.splitWhere_append (by decide) a b
  rw [scan_of_not_blank (not_isAllBlank_pipe a b), scan_of_not_blank ha, scan_of_not_blank hb,
    hpieces, ofSegments_append, ofSegments_add, length_ofSegments]

end StageToken

end LinePipe
