import LinePipe.Console.Basic
import LinePipe.Json
import LinePipe.Proofs.Text.Escapes
import LinePipe.Proofs.Text.Rebreak
import Mathlib.Algebra.Group.Nat.Defs
import Mathlib.Data.List.Forall2

/-!
# Reading JSON documents

A reader for JSON documents without numbers: a text is cut into tokens, and a machine with a stack
puts the document together from them. It reads back every document that is written on one line.

## Main definitions

- `Json.char?`: a character between quotation marks
- `Json.tokensFrom`: the tokens of a text
- `Json.State`, `Json.step`: the machine
- `Json.decode`: the document that a text is
- `Json.field?`: a field of an object
- `Json.Spells`, `Json.Builds`: texts that are cut into tokens, tokens from which a document is put
  together

## Main statements

- `Json.documentInduction`: induction on documents
- `Json.char?_encodeChar`: each character is read back
- `Json.spells_compact`, `Json.builds_tokens`: a document on one line, its tokens and the document
- `Json.decode_compact`: a document on one line is read back
- `Json.all_isAscii_compact`: only characters of ASCII are written that can be seen
-/

namespace LinePipe.Json

/-! ## Induction on documents -/

/-- What holds of a list and of an object if it holds of what is in them holds of all documents. -/
@[elab_as_elim]
theorem documentInduction {motive : Json → Prop} (null : motive null)
    (boolean : ∀ b, motive (boolean b)) (text : ∀ t, motive (text t))
    (list : ∀ items, (∀ item ∈ items, motive item) → motive (list items))
    (object : ∀ fields, (∀ field ∈ fields, motive field.2) → motive (object fields)) (j : Json) :
    motive j :=
  @Json.rec motive (fun items => ∀ item ∈ items, motive item)
    (fun fields => ∀ field ∈ fields, motive field.2) (fun field => motive field.2)
    null boolean text list object
    (List.forall_mem_nil _) (fun _ _ hitem hrest => List.forall_mem_cons.mpr ⟨hitem, hrest⟩)
    (List.forall_mem_nil _) (fun _ _ hfield hrest => List.forall_mem_cons.mpr ⟨hfield, hrest⟩)
    (fun _ _ hvalue => hvalue) j

theorem compactItems_eq_map (items : List Json) : compactItems items = items.map compact := by
  induction items with
  | nil => rfl
  | cons item rest ih => rw [compactItems, ih, List.map_cons]

/-- A field on one line. -/
def compactField (field : Text × Json) : Text :=
  encodeText field.1 ++ [':', ' '] ++ compact field.2

theorem compactFields_eq_map (fields : List (Text × Json)) :
    compactFields fields = fields.map compactField := by
  induction fields with
  | nil => rfl
  | cons field rest ih =>
    rw [compactFields, ih, List.map_cons]
    rfl

/-! ## Characters between quotation marks -/

/-- The value of a hexadecimal digit of either case. -/
def hexValue? (c : Char) : Option Nat :=
  "0123456789abcdef".toList.idxOf? c.toLower

/-- The number that hexadecimal digits write behind those of a given number. -/
def hexNumber? (value : Nat) (digits : Text) : Option Nat :=
  digits.foldlM (fun value c => (hexValue? c).map (16 * value + ·)) value

/-- The UTF-16 unit that the first four characters of a text write. -/
def unit? (t : Text) : Option Nat :=
  if t.length < 4 then none else hexNumber? 0 (t.take 4)

/-- The character that a letter stands for behind a backslash. -/
def shortEscapes : List (Char × Char) :=
  [('"', '"'), ('\\', '\\'), ('/', '/'), ('b', '\x08'), ('f', '\x0c'), ('n', '\n'), ('r', '\r'),
   ('t', '\t')]

/-- The character of two units, the second of which is escaped at the start of a text. -/
def pair? (high : Nat) (t : Text) : Option Char :=
  match t with
  | '\\' :: 'u' :: digits =>
    match unit? digits with
    | none => none
    | some low =>
      if 0xDC00 ≤ low ∧ low < 0xE000 then
        some (Char.ofNat (0x10000 + (high - 0xD800) * 0x400 + (low - 0xDC00)))
      else none
  | _ => none

/-- The character of a unit, or of this unit and the one at the start of the text behind it, and how
many characters both have. -/
def unitChar? (n : Nat) (t : Text) : Option (Char × Nat) :=
  if n < 0xD800 ∨ 0xE000 ≤ n then some (Char.ofNat n, 6)
  else if n < 0xDC00 then (pair? n t).map fun c => (c, 12)
  else none

/-- The character that is escaped by a backslash in front of a text, and how many characters the
escape has. -/
def escape? : Text → Option (Char × Nat)
  | [] => none
  | c :: rest =>
    if c == 'u' then
      match unit? rest with
      | none => none
      | some n => unitChar? n (rest.drop 4)
    else (shortEscapes.lookup c).map fun d => (d, 2)

/-- The character with which a text between quotation marks starts, and how many characters it is
written with. -/
def char? : Text → Option (Char × Nat)
  | [] => none
  | c :: rest =>
    if c == '\\' then escape? rest
    else if c < ' ' || c == '"' then none
    else some (c, 1)

theorem length_hexDigits (width n : Nat) : (Text.hexDigits width n).length = width := by
  induction width generalizing n with
  | zero => rfl
  | succ width ih => rw [Text.hexDigits, List.length_append, ih, List.length_singleton]

theorem hexValue?_hexDigit {n : Nat} (h : n < 16) : hexValue? (Text.hexDigit n) = some n := by
  have hall : ∀ n < 16, hexValue? (Text.hexDigit n) = some n := by decide
  exact hall n h

theorem hexNumber?_concat (value : Nat) (digits : Text) {n : Nat} (h : n < 16) :
    hexNumber? value (digits ++ [Text.hexDigit n]) =
      (hexNumber? value digits).map (16 * · + n) := by
  rw [hexNumber?, List.foldlM_append, hexNumber?]
  cases digits.foldlM (fun value c => (hexValue? c).map (16 * value + ·)) value with
  | none => rfl
  | some value =>
    simp only [Option.bind_eq_bind, Option.bind_some, List.foldlM_cons, List.foldlM_nil,
      hexValue?_hexDigit h, Option.map_some, Option.pure_def]

theorem hexNumber?_hexDigits (width n : Nat) :
    hexNumber? 0 (Text.hexDigits width n) = some (n % 16 ^ width) := by
  induction width generalizing n with
  | zero =>
    rw [Nat.pow_zero, Nat.mod_one]
    rfl
  | succ width ih =>
    rw [Text.hexDigits, hexNumber?_concat _ _ (Nat.mod_lt n (by decide)), ih, Option.map_some,
      Nat.pow_succ', Nat.mod_mul, Nat.add_comm]

theorem unit?_hexDigits {n : Nat} (h : n < 0x10000) (rest : Text) :
    unit? (Text.hexDigits 4 n ++ rest) = some n := by
  have hlength := length_hexDigits 4 n
  have htake : (Text.hexDigits 4 n ++ rest).take 4 = Text.hexDigits 4 n := by
    rw [List.take_append_of_le_length (Nat.le_of_eq hlength.symm), List.take_of_length_le]
    exact Nat.le_of_eq hlength
  have hlong : ¬ (Text.hexDigits 4 n ++ rest).length < 4 := by
    rw [List.length_append, hlength]
    omega
  have hmod : n % 16 ^ 4 = n := Nat.mod_eq_of_lt h
  rw [unit?, if_neg hlong, htake, hexNumber?_hexDigits, hmod]

theorem length_unitEscape (n : Nat) : (unitEscape n).length = 6 := by
  rw [unitEscape, List.length_append, length_hexDigits]
  rfl

theorem char?_unitEscape {n : Nat} (h : n < 0x10000) (rest : Text) :
    char? (unitEscape n ++ rest) = unitChar? n rest := by
  have hdrop : (Text.hexDigits 4 n ++ rest).drop 4 = rest :=
    List.drop_left' (length_hexDigits 4 n)
  change escape? ('u' :: (Text.hexDigits 4 n ++ rest)) = unitChar? n rest
  rw [escape?, unit?_hexDigits h, hdrop]
  rfl

theorem pair?_unitEscape (high : Nat) {low : Nat} (h : 0xDC00 ≤ low ∧ low < 0xE000)
    (rest : Text) :
    pair? high (unitEscape low ++ rest) =
      some (Char.ofNat (0x10000 + (high - 0xD800) * 0x400 + (low - 0xDC00))) := by
  have hunit : unit? (Text.hexDigits 4 low ++ rest) = some low := unit?_hexDigits (by omega) rest
  rw [unitEscape, List.append_assoc, List.cons_append, List.cons_append, List.nil_append, pair?,
    hunit]
  exact if_pos h

/-- A character that is written by its units is read back. -/
theorem char?_charEscape (c : Char) (rest : Text) :
    char? (charEscape c ++ rest) = some (c, (charEscape c).length) := by
  have hvalid : c.toNat < 0xD800 ∨ 0xDFFF < c.toNat ∧ c.toNat < 0x110000 := c.valid
  rw [charEscape]
  by_cases hplane : c.toNat < 0x10000
  · have hunit : c.toNat < 0xD800 ∨ 0xE000 ≤ c.toNat := by omega
    rw [if_pos hplane, char?_unitEscape hplane, length_unitEscape, unitChar?, if_pos hunit,
      Char.ofNat_toNat]
  · -- The two units of a character beyond the first plane.
    generalize hhigh : 0xD800 + (c.toNat - 0x10000) / 0x400 = high
    generalize hlow : 0xDC00 + (c.toNat - 0x10000) % 0x400 = low
    have hcode : 0x10000 + (high - 0xD800) * 0x400 + (low - 0xDC00) = c.toNat := by omega
    rw [if_neg hplane, List.append_assoc, char?_unitEscape (by omega), unitChar?,
      if_neg (by omega), if_pos (by omega), pair?_unitEscape high (by omega), hcode,
      Char.ofNat_toNat, List.length_append, length_unitEscape, length_unitEscape]
    rfl

theorem encodeChar_ne_nil (c : Char) : encodeChar c ≠ [] := by
  rw [encodeChar]
  split_ifs
  case neg =>
    rw [charEscape]
    split <;> exact List.cons_ne_nil _ _
  all_goals exact List.cons_ne_nil _ _

/-- A character that is written between quotation marks is read back. -/
theorem char?_encodeChar (c : Char) (rest : Text) :
    char? (encodeChar c ++ rest) = some (c, (encodeChar c).length) := by
  rw [encodeChar]
  split_ifs with hmark hfeed hreturn htab hpage hback hseen
  · obtain rfl | rfl : c = '"' ∨ c = '\\' := by simpa using hmark
    · rfl
    · rfl
  · rw [eq_of_beq hfeed]
    rfl
  · rw [eq_of_beq hreturn]
    rfl
  · rw [eq_of_beq htab]
    rfl
  · rw [eq_of_beq hpage]
    rfl
  · rw [eq_of_beq hback]
    rfl
  · simp only [Bool.or_eq_true, beq_iff_eq, not_or] at hmark
    simp only [Bool.and_eq_true, decide_eq_true_eq] at hseen
    have hbackslash : (c == '\\') = false := beq_eq_false_iff_ne.mpr hmark.2
    have hother : (decide (c < ' ') || c == '"') = false := by
      rw [beq_eq_false_iff_ne.mpr hmark.1, decide_eq_false (Char.not_lt.mpr hseen.1)]
      rfl
    rw [List.singleton_append, char?, hbackslash, hother]
    rfl
  · exact char?_charEscape c rest

/-! ## Tokens -/

inductive Token where
  | openList
  | closeList
  | openObject
  | closeObject
  | comma
  | colon
  | null
  | boolean (b : Bool)
  | text (t : Text)
  deriving Repr, DecidableEq

/-- The tokens that are always written the same. -/
def lexemes : List (Text × Token) :=
  [(['['], .openList), ([']'], .closeList), (['\x7b'], .openObject), (['\x7d'], .closeObject),
   ([','], .comma), ([':'], .colon), ("null".toList, .null), ("true".toList, .boolean true),
   ("false".toList, .boolean false)]

/-- The token with which a text starts, and how many characters it has. -/
def lexeme? (t : Text) : Option (Token × Nat) :=
  (lexemes.find? fun e => e.1.isPrefixOf t).map fun e => (e.2, e.1.length)

/-- The characters that may stand between tokens. -/
def isGap (c : Char) : Bool :=
  c == ' ' || c == '\t' || c == '\n' || c == '\r'

mutual

/-- The tokens of a text without its first `skip` characters. -/
def tokensFrom : Nat → Text → Option (List Token)
  | _, [] => some []
  | skip + 1, _ :: rest => tokensFrom skip rest
  | 0, c :: rest =>
    if isGap c then tokensFrom 0 rest
    else if c == '"' then textFrom [] 0 rest
    else
      match lexeme? (c :: rest) with
      | none => none
      | some (token, size) => (tokensFrom (size - 1) rest).map (token :: ·)

/-- The tokens of a text without its first `skip` characters, which starts between quotation marks.
What was read since the opening mark comes first, its last character in front. -/
def textFrom (before : Text) : Nat → Text → Option (List Token)
  | _, [] => none
  | skip + 1, _ :: rest => textFrom before skip rest
  | 0, c :: rest =>
    match char? (c :: rest) with
    | some (d, size) => textFrom (d :: before) (size - 1) rest
    | none =>
      if c == '"' then (tokensFrom 0 rest).map (.text before.reverse :: ·) else none

end

/-- A text is cut into tokens, whatever follows. -/
def Spells (t : Text) (tokens : List Token) : Prop :=
  ∀ rest, tokensFrom 0 (t ++ rest) = (tokensFrom 0 rest).map (tokens ++ ·)

theorem tokensFrom_length (front rest : Text) :
    tokensFrom front.length (front ++ rest) = tokensFrom 0 rest := by
  induction front with
  | nil => rfl
  | cons c front ih => rw [List.length_cons, List.cons_append, tokensFrom, ih]

theorem textFrom_length (before front rest : Text) :
    textFrom before front.length (front ++ rest) = textFrom before 0 rest := by
  induction front with
  | nil => rfl
  | cons c front ih => rw [List.length_cons, List.cons_append, textFrom, ih]

theorem spells_nil : Spells [] [] := by
  intro rest
  simp

theorem Spells.append {t u : Text} {ts us : List Token} (ht : Spells t ts) (hu : Spells u us) :
    Spells (t ++ u) (ts ++ us) := by
  intro rest
  rw [List.append_assoc, ht, hu, Option.map_map]
  congr 1
  funext tokens
  exact (List.append_assoc ts us tokens).symm

theorem spells_gap {c : Char} (h : isGap c) : Spells [c] [] := by
  intro rest
  rw [List.singleton_append, tokensFrom, if_pos h]
  simp

/-- No token is at the start of another. -/
theorem lexeme?_append {t : Text} {token : Token} (h : (t, token) ∈ lexemes) (rest : Text) :
    lexeme? (t ++ rest) = some (token, t.length) := by
  simp only [lexemes, List.mem_cons, Prod.mk.injEq, List.not_mem_nil, or_false] at h
  rcases h with ⟨rfl, rfl⟩ | ⟨rfl, rfl⟩ | ⟨rfl, rfl⟩ | ⟨rfl, rfl⟩ | ⟨rfl, rfl⟩ | ⟨rfl, rfl⟩ |
    ⟨rfl, rfl⟩ | ⟨rfl, rfl⟩ | ⟨rfl, rfl⟩ <;> rfl

theorem spells_lexeme {t : Text} {token : Token} (h : (t, token) ∈ lexemes) :
    Spells t [token] := by
  have hstart : ∀ e ∈ lexemes, e.1.head?.map (fun c => isGap c || c == '"') = some false := by
    decide
  have hfirst := hstart _ h
  intro rest
  cases t with
  | nil => cases hfirst
  | cons c front =>
    obtain ⟨hgap, hmark⟩ := Bool.or_eq_false_iff.mp (Option.some.inj hfirst)
    have hlexeme := lexeme?_append h rest
    rw [List.cons_append] at hlexeme
    rw [List.cons_append, tokensFrom, hgap, hmark, hlexeme]
    simp only [Bool.false_eq_true, if_false, List.length_cons, Nat.add_sub_cancel,
      tokensFrom_length]
    rfl

/-- What is between quotation marks is read up to the closing one. -/
theorem textFrom_encoded (before t rest : Text) :
    textFrom before 0 (t.flatMap encodeChar ++ '"' :: rest) =
      (tokensFrom 0 rest).map (.text (before.reverse ++ t) :: ·) := by
  induction t generalizing before with
  | nil =>
    rw [List.flatMap_nil, List.nil_append, textFrom, List.append_nil]
    rfl
  | cons c t ih =>
    have hchar := char?_encodeChar c (t.flatMap encodeChar ++ '"' :: rest)
    obtain ⟨d, front, hencoded⟩ := List.exists_cons_of_ne_nil (encodeChar_ne_nil c)
    rw [hencoded, List.cons_append] at hchar
    rw [List.flatMap_cons, List.append_assoc, hencoded, List.cons_append, textFrom, hchar]
    dsimp only
    rw [List.length_cons, Nat.add_sub_cancel, textFrom_length, ih, List.reverse_cons,
      List.append_assoc, List.singleton_append]

theorem spells_encodeText (t : Text) : Spells (encodeText t) [.text t] := by
  intro rest
  have htext := textFrom_encoded [] t rest
  rw [encodeText, List.append_assoc, List.append_assoc, List.singleton_append,
    List.singleton_append, tokensFrom]
  exact htext

/-- Texts that are cut into tokens are so with commas between them. -/
theorem spells_joinWith {ts : List Text} {parts : List (List Token)}
    (h : List.Forall₂ Spells ts parts) :
    Spells (Text.joinWith [',', ' '] ts) ([Token.comma].intercalate parts) := by
  have hcomma : Spells [',', ' '] [.comma] :=
    (spells_lexeme (by decide : ([','], Token.comma) ∈ lexemes)).append (spells_gap rfl)
  induction h with
  | nil => exact spells_nil
  | @cons t part ts parts hpart hparts ih =>
    cases hparts with
    | nil =>
      rw [List.intercalate_singleton]
      exact hpart
    | cons _ _ =>
      rw [Text.joinWith_cons _ _ (List.cons_ne_nil _ _), List.intercalate_cons_cons]
      exact (hpart.append hcomma).append ih

theorem spells_bracketed {opening closing : Text} {first last : Token}
    (hfirst : (opening, first) ∈ lexemes) (hlast : (closing, last) ∈ lexemes) {ts : List Text}
    {parts : List (List Token)} (h : List.Forall₂ Spells ts parts) :
    Spells (opening ++ Text.joinWith [',', ' '] ts ++ closing)
      ([first] ++ [Token.comma].intercalate parts ++ [last]) :=
  ((spells_lexeme hfirst).append (spells_joinWith h)).append (spells_lexeme hlast)

/-! ## The tokens of a document -/

mutual

def tokens : Json → List Token
  | null => [.null]
  | boolean b => [.boolean b]
  | text t => [.text t]
  | list items => [.openList] ++ [Token.comma].intercalate (itemTokens items) ++ [.closeList]
  | object fields =>
    [.openObject] ++ [Token.comma].intercalate (fieldTokens fields) ++ [.closeObject]

/-- The tokens of each item of a list. -/
def itemTokens : List Json → List (List Token)
  | [] => []
  | item :: rest => tokens item :: itemTokens rest

/-- The tokens of each field of an object. -/
def fieldTokens : List (Text × Json) → List (List Token)
  | [] => []
  | (key, value) :: rest => ([.text key] ++ [.colon] ++ tokens value) :: fieldTokens rest

end

theorem itemTokens_eq_map (items : List Json) : itemTokens items = items.map tokens := by
  induction items with
  | nil => rfl
  | cons item rest ih => rw [itemTokens, ih, List.map_cons]

theorem fieldTokens_eq_map (fields : List (Text × Json)) :
    fieldTokens fields = fields.map fun field => [.text field.1] ++ [.colon] ++ tokens field.2 := by
  induction fields with
  | nil => rfl
  | cons field rest ih => rw [fieldTokens, ih, List.map_cons]

/-- A document on one line is cut into its tokens. -/
theorem spells_compact (j : Json) : Spells j.compact j.tokens := by
  induction j using documentInduction with
  | null => exact spells_lexeme (by decide : ("null".toList, Token.null) ∈ lexemes)
  | boolean b =>
    cases b with
    | true => exact spells_lexeme (by decide : ("true".toList, Token.boolean true) ∈ lexemes)
    | false => exact spells_lexeme (by decide : ("false".toList, Token.boolean false) ∈ lexemes)
  | text t => exact spells_encodeText t
  | list items ih =>
    have hitems : List.Forall₂ Spells (items.map compact) (items.map tokens) := by
      rw [List.forall₂_map_left_iff, List.forall₂_map_right_iff]
      exact List.forall₂_same.mpr ih
    rw [compact, tokens, compactItems_eq_map, itemTokens_eq_map]
    exact spells_bracketed (by decide) (by decide) hitems
  | object fields ih =>
    have hcolon : Spells [':', ' '] [.colon] :=
      (spells_lexeme (by decide : ([':'], Token.colon) ∈ lexemes)).append (spells_gap rfl)
    have hfields : List.Forall₂ Spells (fields.map compactField)
        (fields.map fun field => [.text field.1] ++ [.colon] ++ tokens field.2) := by
      rw [List.forall₂_map_left_iff, List.forall₂_map_right_iff]
      exact List.forall₂_same.mpr fun field hfield =>
        ((spells_encodeText field.1).append hcolon).append (ih field hfield)
    rw [compact, tokens, compactFields_eq_map, fieldTokens_eq_map]
    exact spells_bracketed (by decide) (by decide) hfields

/-! ## Putting documents together -/

/-- A list or an object that is not complete, with what it has so far, the last first. -/
inductive Frame where
  | list (items : List Json)
  /-- The key belongs to the value that comes next. -/
  | object (fields : List (Text × Json)) (key : Text)

/-- What may come next, and what is not complete around it. -/
inductive State where
  /-- A value, or the end of a list without items. -/
  | value (stack : List Frame)
  /-- A key, or the end of an object without fields. -/
  | key (fields : List (Text × Json)) (stack : List Frame)
  /-- The colon behind a key. -/
  | colon (fields : List (Text × Json)) (key : Text) (stack : List Frame)
  /-- What stands behind a complete value. -/
  | behind (j : Json) (stack : List Frame)

def step : State → Token → Option State
  | .value stack, .null => some (.behind null stack)
  | .value stack, .boolean b => some (.behind (boolean b) stack)
  | .value stack, .text t => some (.behind (text t) stack)
  | .value stack, .openList => some (.value (.list [] :: stack))
  | .value stack, .openObject => some (.key [] stack)
  | .value (.list [] :: stack), .closeList => some (.behind (list []) stack)
  | .key fields stack, .text key => some (.colon fields key stack)
  | .key [] stack, .closeObject => some (.behind (object []) stack)
  | .colon fields key stack, .colon => some (.value (.object fields key :: stack))
  | .behind j (.list items :: stack), .comma => some (.value (.list (j :: items) :: stack))
  | .behind j (.list items :: stack), .closeList =>
    some (.behind (list (j :: items).reverse) stack)
  | .behind j (.object fields key :: stack), .comma => some (.key ((key, j) :: fields) stack)
  | .behind j (.object fields key :: stack), .closeObject =>
    some (.behind (object ((key, j) :: fields).reverse) stack)
  | _, _ => none

def run (s : State) (ts : List Token) : Option State :=
  ts.foldlM step s

/-- The document that a text is, if it is one. -/
def decode (t : Text) : Option Json :=
  match (tokensFrom 0 t).bind (run (.value [])) with
  | some (.behind j []) => some j
  | _ => none

/-- A document is put together from tokens where a value may come, whatever is not complete around
it. -/
def Builds (ts : List Token) (j : Json) : Prop :=
  ∀ stack, run (.value stack) ts = some (.behind j stack)

/-- A field is put together from tokens: its key, a colon and its value. -/
def BuildsField (ts : List Token) (field : Text × Json) : Prop :=
  ∃ value, ts = [.text field.1] ++ [.colon] ++ value ∧ Builds value field.2

theorem run_append (s : State) (ts us : List Token) :
    run s (ts ++ us) = (run s ts).bind fun s => run s us :=
  List.foldlM_append

theorem run_singleton (s : State) (token : Token) : run s [token] = step s token := by
  rw [run, List.foldlM_cons]
  exact bind_pure _

/-- Items are put together to a list, behind those that it has so far. -/
theorem run_items {parts : List (List Token)} {items : List Json}
    (h : List.Forall₂ Builds parts items) (hne : items ≠ []) (before : List Json)
    (stack : List Frame) :
    run (.value (.list before :: stack)) ([Token.comma].intercalate parts ++ [.closeList]) =
      some (.behind (list (before.reverse ++ items)) stack) := by
  induction h generalizing before with
  | nil => exact absurd rfl hne
  | @cons part item parts items hpart hparts ih =>
    cases hparts with
    | nil =>
      rw [List.intercalate_singleton, run_append, hpart, Option.bind_some, run_singleton, step,
        List.reverse_cons]
    | cons _ _ =>
      rw [List.intercalate_cons_cons, List.append_assoc, List.append_assoc, run_append, hpart,
        Option.bind_some, run_append, run_singleton, step, Option.bind_some,
        ih (List.cons_ne_nil _ _), List.reverse_cons, List.append_assoc, List.singleton_append]

/-- Fields are put together to an object, behind those that it has so far. -/
theorem run_fields {parts : List (List Token)} {fields : List (Text × Json)}
    (h : List.Forall₂ BuildsField parts fields) (hne : fields ≠ []) (before : List (Text × Json))
    (stack : List Frame) :
    run (.key before stack) ([Token.comma].intercalate parts ++ [.closeObject]) =
      some (.behind (object (before.reverse ++ fields)) stack) := by
  induction h generalizing before with
  | nil => exact absurd rfl hne
  | @cons part field parts fields hpart hparts ih =>
    obtain ⟨value, rfl, hvalue⟩ := hpart
    have hfield : run (.key before stack) ([.text field.1] ++ [.colon] ++ value) =
        some (.behind field.2 (.object before field.1 :: stack)) := by
      rw [List.append_assoc, run_append, run_singleton, step, Option.bind_some, run_append,
        run_singleton, step, Option.bind_some, hvalue]
    cases hparts with
    | nil =>
      rw [List.intercalate_singleton, run_append, hfield, Option.bind_some, run_singleton, step,
        List.reverse_cons]
    | cons _ _ =>
      rw [List.intercalate_cons_cons, List.append_assoc, List.append_assoc, run_append, hfield,
        Option.bind_some, run_append, run_singleton, step, Option.bind_some,
        ih (List.cons_ne_nil _ _), List.reverse_cons, List.append_assoc, List.singleton_append]

theorem builds_list {parts : List (List Token)} {items : List Json}
    (h : List.Forall₂ Builds parts items) :
    Builds ([.openList] ++ [Token.comma].intercalate parts ++ [.closeList]) (list items) := by
  intro stack
  rw [List.append_assoc, run_append, run_singleton, step, Option.bind_some]
  by_cases hne : items = []
  · subst hne
    cases h
    rfl
  · exact run_items h hne [] stack

theorem builds_object {parts : List (List Token)} {fields : List (Text × Json)}
    (h : List.Forall₂ BuildsField parts fields) :
    Builds ([.openObject] ++ [Token.comma].intercalate parts ++ [.closeObject])
      (object fields) := by
  intro stack
  rw [List.append_assoc, run_append, run_singleton, step, Option.bind_some]
  by_cases hne : fields = []
  · subst hne
    cases h
    rfl
  · exact run_fields h hne [] stack

/-- A document is put together from its tokens. -/
theorem builds_tokens (j : Json) : Builds j.tokens j := by
  induction j using documentInduction with
  | null => exact fun _ => rfl
  | boolean b => exact fun _ => rfl
  | text t => exact fun _ => rfl
  | list items ih =>
    rw [tokens, itemTokens_eq_map]
    refine builds_list ?_
    rw [List.forall₂_map_left_iff]
    exact List.forall₂_same.mpr ih
  | object fields ih =>
    rw [tokens, fieldTokens_eq_map]
    refine builds_object ?_
    rw [List.forall₂_map_left_iff]
    exact List.forall₂_same.mpr fun field hfield => ⟨field.2.tokens, rfl, ih field hfield⟩

/-- A document on one line, and a line feed, are read back as the document. -/
theorem decode_compact (j : Json) : decode (j.compact ++ ['\n']) = some j := by
  have htokens : tokensFrom 0 (j.compact ++ ['\n']) = some j.tokens := by
    rw [spells_compact j]
    exact congrArg some (List.append_nil j.tokens)
  rw [decode, htokens, Option.bind_some, builds_tokens j]

/-- Two units are read as one character, and one of them alone is not read. -/
example : decode "[\"\\ud83d\\ude00\"]".toList = some (list [text ['😀']]) ∧
    decode "[\"\\ud83d\"]".toList = none := ⟨rfl, rfl⟩

/-- A field of an object; of several with the same key the last. -/
def field? (key : Text) : Json → Option Json
  | object fields => fields.reverse.lookup key
  | _ => none

/-! ## What is written -/

/-- The characters of ASCII that can be seen, and the space. -/
def isAscii (c : Char) : Bool :=
  ' ' ≤ c && c ≤ '~'

theorem all_isAscii_hexDigits (width n : Nat) : (Text.hexDigits width n).all isAscii := by
  have hdigit : ∀ n < 16, isAscii (Text.hexDigit n) := by decide
  induction width generalizing n with
  | zero => rfl
  | succ width ih =>
    rw [Text.hexDigits, List.all_append, ih, List.all_cons, hdigit _ (Nat.mod_lt n (by decide))]
    rfl

theorem all_isAscii_unitEscape (n : Nat) : (unitEscape n).all isAscii := by
  rw [unitEscape, List.all_append, all_isAscii_hexDigits]
  rfl

theorem all_isAscii_encodeChar (c : Char) : (encodeChar c).all isAscii := by
  rw [encodeChar]
  split_ifs with hmark hfeed hreturn htab hpage hback hseen
  · obtain rfl | rfl : c = '"' ∨ c = '\\' := by simpa using hmark
    · rfl
    · rfl
  · rfl
  · rfl
  · rfl
  · rfl
  · rfl
  · rw [List.all_cons, isAscii, hseen]
    rfl
  · rw [charEscape]
    split
    · exact all_isAscii_unitEscape _
    · rw [List.all_append, all_isAscii_unitEscape, all_isAscii_unitEscape]
      rfl

theorem all_isAscii_encodeText (t : Text) : (encodeText t).all isAscii := by
  have hinside : (t.flatMap encodeChar).all isAscii := by
    rw [List.all_flatMap, List.all_eq_true]
    exact fun c _ => all_isAscii_encodeChar c
  rw [encodeText, List.all_append, List.all_append, hinside]
  rfl

theorem all_isAscii_joinWith {ts : List Text} (h : ∀ t ∈ ts, t.all isAscii) :
    (Text.joinWith [',', ' '] ts).all isAscii := by
  induction ts with
  | nil => rfl
  | cons t ts ih =>
    obtain ⟨ht, hts⟩ := List.forall_mem_cons.mp h
    cases ts with
    | nil => exact ht
    | cons _ _ =>
      rw [Text.joinWith_cons _ _ (List.cons_ne_nil _ _), List.all_append, List.all_append, ht,
        ih hts]
      rfl

/-- A document on one line is written in characters of ASCII that can be seen. -/
theorem all_isAscii_compact (j : Json) : j.compact.all isAscii := by
  induction j using documentInduction with
  | null => rfl
  | boolean b => cases b <;> rfl
  | text t => exact all_isAscii_encodeText t
  | list items ih =>
    rw [compact, compactItems_eq_map, List.all_append, List.all_append,
      all_isAscii_joinWith (List.forall_mem_map.mpr ih)]
    rfl
  | object fields ih =>
    have hfields : ∀ field ∈ fields, (compactField field).all isAscii := by
      intro field hfield
      rw [compactField, List.all_append, List.all_append, all_isAscii_encodeText, ih field hfield]
      rfl
    rw [compact, compactFields_eq_map, List.all_append, List.all_append,
      all_isAscii_joinWith (List.forall_mem_map.mpr hfields)]
    rfl

/-- A console with or without colour leaves a document on one line as it is. -/
theorem written_compact (console : Console) (j : Json) :
    console.written j.compact = j.compact ++ ['\n'] := by
  have hescape : ¬ Text.HasEscape j.compact := by
    rintro ⟨before, escape, after, hsplit, parameters, letter, rfl, -⟩
    have hmem : escapeChar ∈ j.compact := by
      rw [hsplit]
      simp
    exact absurd (List.all_eq_true.mp (all_isAscii_compact j) _ hmem) (by decide)
  rw [Console.written, (Text.plain_eq_self_iff _).mpr hescape, ite_self]
  rfl

end LinePipe.Json
