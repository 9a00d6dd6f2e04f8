import LinePipe.Proofs.Pipeline.Canonical

/-!
# The layout of a pipeline text

A pipeline text is laid out by whitespace and pipe characters: pipe characters stand between
segments, and whitespace stands between the words of a segment and wherever else there is room. The
tokens show the words of each segment and nothing of the whitespace. Each text has exactly one such
reading, so what cannot be a word is never the name of a stage, and a command of such a name is
registered in vain.

## Main definitions

- `Text.IsWord`: what can stand as a word in a pipeline text
- `StageToken.LaidOut`: a text in which segments of given words stand
- `StageToken.ofLayout`: the tokens of segments of given words
- `Registry.rebuild`: a registry in which one command builds other stages
- `Pipeline.RecoversLayout`: what the tokens of a text show of its layout

## Main statements

- `StageToken.laidOut_iff`: each text is laid out in one way
- `StageToken.scan_of_laidOut`: the tokens show the words of each segment
- `Pipeline.parse_rebuild`: a command whose name is no word is never asked for a stage
-/

namespace LinePipe

/-- What can stand as a word in a pipeline text: some characters, none of them whitespace or the
pipe character. -/
structure Text.IsWord (w : Text) : Prop where
  nonempty : w ≠ []
  not_blank : ∀ c ∈ w, ¬ isBlank c
  not_pipe : pipeChar ∉ w

/-- All characters that are not whitespace belong to words. -/
theorem Text.Spaced.blank_or_mem {ws : List Text} {t : Text} {c : Char} (h : Spaced ws t)
    (hc : c ∈ t) : isBlank c ∨ ∃ w ∈ ws, c ∈ w := by
  induction h with
  | blank hgap => exact .inl (hgap c hc)
  | @word gap w rest ws hgap hne hletters hapart hrest ih =>
    simp only [List.mem_append] at hc
    obtain (hc | hc) | hc := hc
    · exact .inl (hgap c hc)
    · exact .inr ⟨w, List.mem_cons_self, hc⟩
    · refine (ih hc).imp_right ?_
      rintro ⟨v, hv, hcv⟩
      exact ⟨v, List.mem_cons_of_mem w hv, hcv⟩

/-- The words of a text without pipe characters can stand in a pipeline text. -/
theorem Text.isWord_of_mem_words {t w : Text} (hpipe : pipeChar ∉ t) (hw : w ∈ words t) :
    w.IsWord := by
  obtain ⟨hpiece, hsome⟩ := List.mem_filter.mp hw
  exact {
    nonempty := by simpa using hsome
    not_blank := fun c hc => Bool.eq_false_iff.mp (not_sep_of_mem_splitWhere hpiece hc)
    not_pipe := fun hc => hpipe (mem_of_mem_splitWhere hpiece hc) }

/-- Pieces in which given words stand apart are pieces with these words. -/
theorem Text.forall₂_spaced_iff {segments : List (List Text)} {pieces : List Text} :
    List.Forall₂ Spaced segments pieces ↔ segments = pieces.map words := by
  have hspaced : Spaced = fun ws t => ws = words t := by
    funext ws t
    exact propext (words_eq_iff.symm.trans eq_comm)
  rw [hspaced, ← List.forall₂_map_right_iff, List.forall₂_eq_eq_eq]

namespace StageToken

/-- A text in which segments of given words stand, with a pipe character between neighbours. In each
segment there is whitespace between neighbouring words, and there may be more of it anywhere
between, before and behind them. -/
structure LaidOut (segments : List (List Text)) (text : Text) : Prop where
  some_segment : segments ≠ []
  words : ∀ ws ∈ segments, ∀ w ∈ ws, w.IsWord
  written : ∃ pieces, List.Forall₂ Text.Spaced segments pieces ∧
    Text.joinWith [pipeChar] pieces = text

/-- The tokens of segments of given words: one for each segment, counted from 1, with its first word
as name and the others as arguments, or with an empty name if it has no words. A segment without
words that stands alone is no stage. -/
def ofLayout (segments : List (List Text)) : List StageToken :=
  if segments = [[]] then []
  else segments.mapIdx fun index ws => ⟨index + 1, ws.headD [], ws.tail⟩

/-! ## One layout for each text -/

/-- The layout of a text is found by cutting it at the pipe characters, and the pieces into their
words. -/
theorem laidOut_iff {segments : List (List Text)} {text : Text} :
    LaidOut segments text ↔ segments = (Text.splitOn pipeChar text).map Text.words := by
  constructor
  · rintro ⟨hne, hwords, pieces, hspaced, hjoin⟩
    rw [Text.forall₂_spaced_iff] at hspaced
    subst hspaced
    have hpieces : pieces ≠ [] := by simpa using hne
    have hpipe : ∀ piece ∈ pieces, pipeChar ∉ piece := by
      intro piece hpiece hmem
      have hsegment : Text.Spaced (Text.words piece) piece := Text.words_eq_iff.mp rfl
      obtain hblank | ⟨w, hw, hc⟩ := hsegment.blank_or_mem hmem
      · exact absurd hblank (by decide)
      · exact (hwords _ (List.mem_map_of_mem hpiece) w hw).not_pipe hc
    rw [Text.splitOn_eq_iff.mpr ⟨hpieces, hpipe, hjoin⟩]
  · rintro rfl
    obtain ⟨hne, hpipe, hjoin⟩ := Text.splitOn_eq_iff.mp (rfl : Text.splitOn pipeChar text = _)
    refine ⟨by simpa using hne, ?_, _, Text.forall₂_spaced_iff.mpr rfl, hjoin⟩
    intro ws hws w hw
    obtain ⟨piece, hpiece, rfl⟩ := List.mem_map.mp hws
    exact Text.isWord_of_mem_words (hpipe piece hpiece) hw

/-! ## The tokens show the layout -/

/-- Segments have the tokens of their words, counted on from the first position. -/
theorem ofSegments_eq_mapIdx (position : Nat) (pieces : List Text) :
    ofSegments position pieces = (pieces.map Text.words).mapIdx
      fun index ws => ⟨index + position, ws.headD [], ws.tail⟩ := by
  induction pieces generalizing position with
  | nil => rfl
  | cons piece rest ih =>
    have hfirst : ofSegment position piece =
        ⟨0 + position, (Text.words piece).headD [], (Text.words piece).tail⟩ := by
      rw [ofSegment, Nat.zero_add]
      cases Text.words piece <;> rfl
    rw [ofSegments, List.map_cons, List.mapIdx_cons, ih, hfirst]
    simp only [Nat.add_assoc, Nat.add_comm 1]

/-- Whitespace is the only text with a single segment without words. -/
theorem isAllBlank_iff_of_laidOut {segments : List (List Text)} {text : Text}
    (h : LaidOut segments text) : Text.isAllBlank text ↔ segments = [[]] := by
  rw [Pipeline.isAllBlank_iff]
  constructor
  · intro hblank
    have hpipe : pipeChar ∉ text := Pipeline.pipeChar_not_mem_of_blank hblank
    have hsplit : Text.splitOn pipeChar text = [text] :=
      Text.splitOn_eq_iff.mpr ⟨List.cons_ne_nil _ _, List.forall_mem_singleton.mpr hpipe, rfl⟩
    rw [laidOut_iff.mp h, hsplit, List.map_singleton, Text.words_of_blank hblank]
  · rintro rfl c hc
    obtain ⟨-, -, pieces, hspaced, hjoin⟩ := h
    obtain ⟨piece, rest, hpiece, hrest, rfl⟩ := List.forall₂_cons_left_iff.mp hspaced
    obtain rfl := List.forall₂_nil_left_iff.mp hrest
    rw [← hjoin] at hc
    obtain hblank | ⟨w, hw, -⟩ := hpiece.blank_or_mem hc
    · exact hblank
    · cases hw

/-- The tokens of a text show the words of its segments. -/
theorem scan_of_laidOut {segments : List (List Text)} {text : Text} (h : LaidOut segments text) :
    scan text = ofLayout segments := by
  rw [ofLayout]
  by_cases hblank : segments = [[]]
  · rw [if_pos hblank, scan, if_pos ((isAllBlank_iff_of_laidOut h).mpr hblank)]
  · rw [if_neg hblank, scan_of_not_blank ((isAllBlank_iff_of_laidOut h).not.mpr hblank),
      laidOut_iff.mp h, ofSegments_eq_mapIdx]

example : scan " sort\t-d ||uniq\n".toList =
    ofLayout [["sort".toList, "-d".toList], [], ["uniq".toList]] := by
  decide

/-- A token has no words, or its name and its arguments are words. -/
theorem empty_or_isWord_of_mem_ofLayout {segments : List (List Text)} {token : StageToken}
    (h : ∀ ws ∈ segments, ∀ w ∈ ws, w.IsWord) (htoken : token ∈ ofLayout segments) :
    token.name = [] ∧ token.arguments = [] ∨ ∀ w ∈ token.name :: token.arguments, w.IsWord := by
  rw [ofLayout] at htoken
  split at htoken
  · cases htoken
  · obtain ⟨index, hindex, rfl⟩ := List.mem_mapIdx.mp htoken
    have hws := h _ (List.getElem_mem hindex)
    cases hsegment : segments[index] with
    | nil => exact .inl ⟨rfl, rfl⟩
    | cons name arguments =>
      rw [hsegment] at hws
      exact .inr hws

theorem empty_or_isWord_of_mem_scan {text : Text} {token : StageToken} (h : token ∈ scan text) :
    token.name = [] ∧ token.arguments = [] ∨ ∀ w ∈ token.name :: token.arguments, w.IsWord := by
  have hlaidOut := laidOut_iff.mpr (rfl : (Text.splitOn pipeChar text).map Text.words = _)
  rw [scan_of_laidOut hlaidOut] at h
  exact empty_or_isWord_of_mem_ofLayout hlaidOut.words h

end StageToken

/-! ## Commands that no text reaches -/

section

variable (name : Text) (build : List Text → StageSettings → Except BuildFailure Stage)

/-- The command with another way to build stages, if it has a given name. -/
def Command.rebuild (c : Command) : Command :=
  if c.info.name = name then { c with build } else c

@[simp] theorem Command.info_rebuild (c : Command) : (c.rebuild name build).info = c.info := by
  rw [rebuild]
  split <;> rfl

namespace Registry

variable (r : Registry)

/-- The registry with another way to build stages for the command of a given name. -/
def rebuild : Registry where
  commands := r.commands.map (Command.rebuild name build)
  distinct := by
    rw [List.map_map, ← r.distinct]
    congr 1
    exact List.map_congr_left fun c _ => by simp

theorem catalog_rebuild : (r.rebuild name build).catalog = r.catalog := by
  rw [catalog, catalog, rebuild, List.map_map]
  exact List.map_congr_left fun c _ => by simp

/-- Commands of other names are found as before. -/
theorem get?_rebuild_of_ne {name other : Text} (h : other ≠ name) :
    (r.rebuild name build).get? other = r.get? other := by
  have hnames : (fun c : Command => c.info.name == other) ∘ Command.rebuild name build =
      fun c => c.info.name == other := by
    funext c
    simp
  rw [get?, get?, rebuild, List.find?_map, hnames]
  cases hfound : r.commands.find? fun c => c.info.name == other with
  | none => rfl
  | some c =>
    have hname : c.info.name = other := by simpa using List.find?_some hfound
    have hother : c.info.name ≠ name := by rwa [hname]
    rw [Option.map_some, Command.rebuild, if_neg hother]

theorem fillSettings_rebuild (settings : Option StageSettings) :
    (r.rebuild name build).fillSettings settings = r.fillSettings settings := by
  rw [fillSettings, fillSettings, catalog_rebuild]

end Registry

end

namespace Pipeline

variable (registry : Registry) (command : List Text → StageSettings → Except BuildFailure Stage)

/-- Tokens that do not name a command are built without it. -/
theorem build_rebuild {name : Text} (settings : StageSettings) {tokens : List StageToken}
    (h : ∀ token ∈ tokens, token.name = [] ∨ token.name ≠ name) :
    build (registry.rebuild name command) settings tokens = build registry settings tokens := by
  induction tokens with
  | nil => rfl
  | cons token rest ih =>
    obtain ⟨hfirst, hrest⟩ := List.forall_mem_cons.mp h
    rw [build, build]
    by_cases hempty : token.name = []
    · rw [hempty]
      rfl
    · have hother := hfirst.resolve_left hempty
      have hisEmpty : token.name.isEmpty = false := by simpa using hempty
      rw [hisEmpty, ih hrest, Registry.build, Registry.build,
        registry.get?_rebuild_of_ne command hother, registry.fillSettings_rebuild]

/-- A command whose name is no word is never asked for a stage: whatever it does, a text is parsed
in the same way. -/
theorem parse_rebuild {name : Text} (h : ¬ name.IsWord) (text : Text) (checkOnly : Bool)
    (settings : Option StageSettings) :
    parse text checkOnly (registry.rebuild name command) settings =
      parse text checkOnly registry settings := by
  have htokens : ∀ token ∈ StageToken.scan text, token.name = [] ∨ token.name ≠ name := by
    intro token htoken
    obtain ⟨hnone, -⟩ | hwords := StageToken.empty_or_isWord_of_mem_scan htoken
    · exact .inl hnone
    · right
      rintro rfl
      exact h (hwords _ List.mem_cons_self)
  rw [parse, parse, registry.fillSettings_rebuild, build_rebuild registry command _ htokens]

/-- What the tokens of a text show: the words of its segments, whatever its layout is, and nothing
else. -/
structure RecoversLayout (text : Text) : Prop where
  scan : ∀ segments, StageToken.LaidOut segments text →
    StageToken.scan text = StageToken.ofLayout segments
  laidOut : ∃! segments, StageToken.LaidOut segments text
  words : ∀ token ∈ StageToken.scan text, token.name = [] ∧ token.arguments = [] ∨
    ∀ w ∈ token.name :: token.arguments, w.IsWord
  unreached : ∀ (registry : Registry) (name : Text) command checkOnly settings, ¬ name.IsWord →
    parse text checkOnly (registry.rebuild name command) settings =
      parse text checkOnly registry settings

theorem recoversLayout (text : Text) : RecoversLayout text where
  scan _ := StageToken.scan_of_laidOut
  laidOut := ⟨_, StageToken.laidOut_iff.mpr rfl, fun _ h => StageToken.laidOut_iff.mp h⟩
  words _ := StageToken.empty_or_isWord_of_mem_scan
  unreached registry _ command checkOnly settings h :=
    parse_rebuild registry command h text checkOnly settings

end Pipeline

end LinePipe
