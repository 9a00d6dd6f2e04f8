import LinePipe.Text.Utf8

/-!
# Decoding what was encoded

Each character is written with the octets that decoding reads as one character again: the lead octet
tells how many there are, and the others carry six bits each. Since decoding takes the shortest form
only, no other octets are read as that character.

## Main statements

- `Utf8.decodeFrom_encodeChar`: the octets of a character are read as that character
- `Utf8.decode_encode`: the octets of a text are read as that text
- `Utf8.decode_eq_ok_iff`: no other octets are
-/

namespace LinePipe.Utf8

section Reading

variable {a b c d : UInt8} (pos : Nat) (rest : Octets)

/-! ## Reading one character -/

theorem decodeFrom_one (ha : a.toNat < 0x80) :
    decodeFrom pos (a :: rest) = (decodeFrom (pos + 1) rest).map (Char.ofNat a.toNat :: ·) := by
  rw [decodeFrom.eq_def]
  simp only [UInt8.lt_iff_toNat_lt, UInt8.reduceToNat, ha, if_true]

theorem decodeFrom_two (ha : 0xC2 ≤ a.toNat) (ha' : a.toNat < 0xE0) (hb : continues b) :
    decodeFrom pos (a :: b :: rest) = (decodeFrom (pos + 2) rest).map
      (Char.ofNat ((a.toNat - 0xC0) * 0x40 + payload b) :: ·) := by
  have h1 : ¬ a.toNat < 0x80 := by omega
  have h2 : ¬ a.toNat < 0xC2 := by omega
  rw [decodeFrom.eq_def]
  simp only [UInt8.lt_iff_toNat_lt, UInt8.reduceToNat, h1, h2, ha', if_true, if_false, hb,
    Bool.not_true, Bool.false_eq_true]

theorem decodeFrom_three (ha : 0xE0 ≤ a.toNat) (ha' : a.toNat < 0xF0) (hb : mayFollow a b)
    (hc : continues c) :
    decodeFrom pos (a :: b :: c :: rest) = (decodeFrom (pos + 3) rest).map
      (Char.ofNat (((a.toNat - 0xE0) * 0x40 + payload b) * 0x40 + payload c) :: ·) := by
  have h1 : ¬ a.toNat < 0x80 := by omega
  have h2 : ¬ a.toNat < 0xC2 := by omega
  have h3 : ¬ a.toNat < 0xE0 := by omega
  rw [decodeFrom.eq_def]
  simp only [UInt8.lt_iff_toNat_lt, UInt8.reduceToNat, h1, h2, h3, ha', if_true, if_false, hb, hc,
    Bool.not_true, Bool.false_eq_true]

theorem decodeFrom_four (ha : 0xF0 ≤ a.toNat) (ha' : a.toNat < 0xF5) (hb : mayFollow a b)
    (hc : continues c) (hd : continues d) :
    decodeFrom pos (a :: b :: c :: d :: rest) = (decodeFrom (pos + 4) rest).map
      (Char.ofNat ((((a.toNat - 0xF0) * 0x40 + payload b) * 0x40 + payload c) * 0x40 +
        payload d) :: ·) := by
  have h1 : ¬ a.toNat < 0x80 := by omega
  have h2 : ¬ a.toNat < 0xC2 := by omega
  have h3 : ¬ a.toNat < 0xE0 := by omega
  have h4 : ¬ a.toNat < 0xF0 := by omega
  rw [decodeFrom.eq_def]
  simp only [UInt8.lt_iff_toNat_lt, UInt8.reduceToNat, h1, h2, h3, h4, ha', if_true, if_false, hb,
    hc, hd, Bool.not_true, Bool.false_eq_true]

end Reading

/-! ## Octets with six bits -/

theorem toNat_ofNat {n : Nat} (hn : n < 256) : (UInt8.ofNat n).toNat = n :=
  UInt8.toNat_ofNat_of_lt' hn

theorem continues_iff {b : UInt8} : continues b ↔ 0x80 ≤ b.toNat ∧ b.toNat < 0xC0 := by
  simp only [continues, Bool.and_eq_true, decide_eq_true_eq, UInt8.le_iff_toNat_le,
    UInt8.lt_iff_toNat_lt, UInt8.reduceToNat]

/-- An octet with six bits continues a character. -/
theorem continues_ofNat {n : Nat} (hn : n < 0x40) : continues (UInt8.ofNat (0x80 + n)) := by
  rw [continues_iff, toNat_ofNat (by omega)]
  omega

/-- The six bits are read back. -/
theorem payload_ofNat {n : Nat} (hn : n < 0x40) : payload (UInt8.ofNat (0x80 + n)) = n := by
  have hoctet : (UInt8.ofNat (0x80 + n)).toNat = 0x80 + n := toNat_ofNat (by omega)
  unfold payload
  rw [hoctet]
  exact Nat.add_sub_cancel_left 0x80 n

/-- The octet after the lead octet is admitted if the form is neither too long, nor a surrogate, nor
too great. -/
theorem mayFollow_ofNat {lead n : Nat} (hlead : lead < 256) (hn : n < 0x40)
    (hE0 : lead = 0xE0 → 0x20 ≤ n) (hED : lead = 0xED → n < 0x20)
    (hF0 : lead = 0xF0 → 0x10 ≤ n) (hF4 : lead = 0xF4 → n < 0x10) :
    mayFollow (UInt8.ofNat lead) (UInt8.ofNat (0x80 + n)) := by
  have hoctet : (UInt8.ofNat (0x80 + n)).toNat = 0x80 + n := toNat_ofNat (by omega)
  simp only [mayFollow, continues_ofNat hn, Bool.and_eq_true, Bool.not_eq_true',
    Bool.and_eq_false_iff, beq_eq_false_iff_ne, decide_eq_false_iff_not, ne_eq, true_and,
    ← UInt8.toNat_inj, UInt8.lt_iff_toNat_lt, UInt8.le_iff_toNat_le, UInt8.reduceToNat, hoctet,
    toNat_ofNat hlead]
  omega

/-- The octets of a character are read as that character. -/
theorem decodeFrom_encodeChar (c : Char) (pos : Nat) (rest : Octets) :
    decodeFrom pos (encodeChar c ++ rest) =
      (decodeFrom (pos + (encodeChar c).length) rest).map (c :: ·) := by
  have hvalid : c.toNat < 0xD800 ∨ 0xDFFF < c.toNat ∧ c.toNat < 0x110000 := c.valid
  have hchar {n : Nat} (h : n = c.toNat) : Char.ofNat n = c := by rw [h, Char.ofNat_toNat]
  -- Only the code point matters from here on, and of it only that it is no surrogate.
  unfold encodeChar
  generalize hn : c.toNat = n at hvalid hchar
  dsimp only
  by_cases h1 : n < 0x80
  · have ha : (UInt8.ofNat n).toNat = n := toNat_ofNat (by omega)
    simp only [h1, if_true, List.cons_append, List.nil_append, List.length_singleton]
    rw [decodeFrom_one, ha, hchar rfl]
    omega
  by_cases h2 : n < 0x800
  · have ha : (UInt8.ofNat (0xC0 + n / 0x40)).toNat = 0xC0 + n / 0x40 := toNat_ofNat (by omega)
    have hb : n % 0x40 < 0x40 := by omega
    simp only [h1, h2, if_true, if_false, List.cons_append, List.nil_append, List.length_cons,
      List.length_nil]
    rw [decodeFrom_two pos rest (by omega) (by omega) (continues_ofNat hb), payload_ofNat hb, ha,
      hchar (by omega)]
  by_cases h3 : n < 0x10000
  · have ha : (UInt8.ofNat (0xE0 + n / 0x1000)).toNat = 0xE0 + n / 0x1000 :=
      toNat_ofNat (by omega)
    have hb : n / 0x40 % 0x40 < 0x40 := by omega
    have hc : n % 0x40 < 0x40 := by omega
    have hfollow : mayFollow (UInt8.ofNat (0xE0 + n / 0x1000))
        (UInt8.ofNat (0x80 + n / 0x40 % 0x40)) :=
      mayFollow_ofNat (by omega) hb (by omega) (by omega) (by omega) (by omega)
    simp only [h1, h2, h3, if_true, if_false, List.cons_append, List.nil_append, List.length_cons,
      List.length_nil]
    rw [decodeFrom_three pos rest (by omega) (by omega) hfollow (continues_ofNat hc),
      payload_ofNat hb, payload_ofNat hc, ha, hchar (by omega)]
  · have ha : (UInt8.ofNat (0xF0 + n / 0x40000)).toNat = 0xF0 + n / 0x40000 :=
      toNat_ofNat (by omega)
    have hb : n / 0x1000 % 0x40 < 0x40 := by omega
    have hc : n / 0x40 % 0x40 < 0x40 := by omega
    have hd : n % 0x40 < 0x40 := by omega
    have hfollow : mayFollow (UInt8.ofNat (0xF0 + n / 0x40000))
        (UInt8.ofNat (0x80 + n / 0x1000 % 0x40)) :=
      mayFollow_ofNat (by omega) hb (by omega) (by omega) (by omega) (by omega)
    simp only [h1, h2, h3, if_false, List.cons_append, List.nil_append, List.length_cons,
      List.length_nil]
    rw [decodeFrom_four pos rest (by omega) (by omega) hfollow (continues_ofNat hc)
      (continues_ofNat hd), payload_ofNat hb, payload_ofNat hc, payload_ofNat hd, ha,
      hchar (by omega)]

/-- The octets of a text are read as that text. -/
theorem decode_encode (t : Text) : decode (encode t) = .ok t := by
  have hfrom (pos : Nat) : decodeFrom pos (encode t) = .ok t := by
    induction t generalizing pos with
    | nil => rfl
    | cons c rest ih =>
      change decodeFrom pos (encodeChar c ++ encode rest) = _
      rw [decodeFrom_encodeChar, ih]
      rfl
  exact hfrom 0

/-! ## Octets that are read as a character -/

/-- Six bits are carried by one octet only. -/
theorem ofNat_payload {b : UInt8} (hb : continues b) : UInt8.ofNat (0x80 + payload b) = b := by
  obtain ⟨hleast, -⟩ := continues_iff.mp hb
  have hbits : 0x80 + payload b = b.toNat := by
    unfold payload
    omega
  rw [hbits, UInt8.ofNat_toNat]

theorem payload_lt {b : UInt8} (hb : continues b) : payload b < 0x40 := by
  obtain ⟨hleast, hgreatest⟩ := continues_iff.mp hb
  unfold payload
  omega

/-- What may follow a lead octet continues, and its bits keep the form from being too long, a
surrogate or too great. -/
theorem of_mayFollow {lead b : UInt8} (h : mayFollow lead b) :
    continues b ∧ (lead.toNat = 0xE0 → 0x20 ≤ payload b) ∧ (lead.toNat = 0xED → payload b < 0x20) ∧
      (lead.toNat = 0xF0 → 0x10 ≤ payload b) ∧ (lead.toNat = 0xF4 → payload b < 0x10) := by
  simp only [mayFollow, Bool.and_eq_true, Bool.not_eq_true', Bool.and_eq_false_iff,
    beq_eq_false_iff_ne, decide_eq_false_iff_not, ne_eq, ← UInt8.toNat_inj,
    UInt8.lt_iff_toNat_lt, UInt8.le_iff_toNat_le, UInt8.reduceToNat] at h
  obtain ⟨⟨⟨⟨hb, hE0⟩, hED⟩, hF0⟩, hF4⟩ := h
  have hlt := payload_lt hb
  unfold payload at hlt ⊢
  refine ⟨hb, ?_, ?_, ?_, ?_⟩ <;> intro hlead <;> omega

theorem toNat_char {n : Nat} (h : n.isValidChar) : (Char.ofNat n).toNat = n := by
  rw [Char.ofNat, dif_pos h]
  rfl

variable {a b c d : UInt8}

theorem encodeChar_one (ha : a.toNat < 0x80) : encodeChar (Char.ofNat a.toNat) = [a] := by
  have hvalid : a.toNat.isValidChar := .inl (by omega)
  simp only [encodeChar, toNat_char hvalid, ha, if_true, UInt8.ofNat_toNat]

theorem encodeChar_two (ha : 0xC2 ≤ a.toNat) (ha' : a.toNat < 0xE0) (hb : continues b) :
    encodeChar (Char.ofNat ((a.toNat - 0xC0) * 0x40 + payload b)) = [a, b] := by
  have hlt := payload_lt hb
  have hoctet := ofNat_payload hb
  generalize payload b = x at hlt hoctet ⊢
  generalize hn : (a.toNat - 0xC0) * 0x40 + x = n
  have hvalid : n.isValidChar := .inl (by omega)
  have h1 : ¬ n < 0x80 := by omega
  have h2 : n < 0x800 := by omega
  have hlead : 0xC0 + n / 0x40 = a.toNat := by omega
  have hlast : n % 0x40 = x := by omega
  simp only [encodeChar, toNat_char hvalid, h1, h2, if_true, if_false, hlead, hlast, hoctet,
    UInt8.ofNat_toNat]

theorem encodeChar_three (ha : 0xE0 ≤ a.toNat) (ha' : a.toNat < 0xF0) (hb : mayFollow a b)
    (hc : continues c) :
    encodeChar (Char.ofNat (((a.toNat - 0xE0) * 0x40 + payload b) * 0x40 + payload c)) =
      [a, b, c] := by
  obtain ⟨hb, hE0, hED, -, -⟩ := of_mayFollow hb
  have hltb := payload_lt hb
  have hltc := payload_lt hc
  have hoctetb := ofNat_payload hb
  have hoctetc := ofNat_payload hc
  generalize payload b = x at hltb hoctetb hE0 hED ⊢
  generalize payload c = y at hltc hoctetc ⊢
  generalize hn : ((a.toNat - 0xE0) * 0x40 + x) * 0x40 + y = n
  have hvalid : n.isValidChar := by
    unfold Nat.isValidChar
    omega
  have h1 : ¬ n < 0x80 := by omega
  have h2 : ¬ n < 0x800 := by omega
  have h3 : n < 0x10000 := by omega
  have hlead : 0xE0 + n / 0x1000 = a.toNat := by omega
  have hsecond : n / 0x40 % 0x40 = x := by omega
  have hlast : n % 0x40 = y := by omega
  simp only [encodeChar, toNat_char hvalid, h1, h2, h3, if_true, if_false, hlead, hsecond, hlast,
    hoctetb, hoctetc, UInt8.ofNat_toNat]

theorem encodeChar_four (ha : 0xF0 ≤ a.toNat) (ha' : a.toNat < 0xF5) (hb : mayFollow a b)
    (hc : continues c) (hd : continues d) :
    encodeChar (Char.ofNat ((((a.toNat - 0xF0) * 0x40 + payload b) * 0x40 + payload c) * 0x40 +
      payload d)) = [a, b, c, d] := by
  obtain ⟨hb, -, -, hF0, hF4⟩ := of_mayFollow hb
  have hltb := payload_lt hb
  have hltc := payload_lt hc
  have hltd := payload_lt hd
  have hoctetb := ofNat_payload hb
  have hoctetc := ofNat_payload hc
  have hoctetd := ofNat_payload hd
  generalize payload b = x at hltb hoctetb hF0 hF4 ⊢
  generalize payload c = y at hltc hoctetc ⊢
  generalize payload d = z at hltd hoctetd ⊢
  generalize hn : (((a.toNat - 0xF0) * 0x40 + x) * 0x40 + y) * 0x40 + z = n
  have hvalid : n.isValidChar := .inr (by omega)
  have h1 : ¬ n < 0x80 := by omega
  have h2 : ¬ n < 0x800 := by omega
  have h3 : ¬ n < 0x10000 := by omega
  have hlead : 0xF0 + n / 0x40000 = a.toNat := by omega
  have hsecond : n / 0x1000 % 0x40 = x := by omega
  have hthird : n / 0x40 % 0x40 = y := by omega
  have hlast : n % 0x40 = z := by omega
  simp only [encodeChar, toNat_char hvalid, h1, h2, h3, if_false, hlead, hsecond, hthird, hlast,
    hoctetb, hoctetc, hoctetd, UInt8.ofNat_toNat]

theorem encode_of_map_cons {x : Except Fault Text} {ch : Char} {octets rest : Octets} {t : Text}
    (h : x.map (ch :: ·) = .ok t) (hchar : encodeChar ch = octets)
    (hrest : ∀ {u : Text}, x = .ok u → encode u = rest) : encode t = octets ++ rest := by
  cases x with
  | error fault => cases h
  | ok u =>
    cases h
    change encodeChar ch ++ encode u = _
    rw [hchar, hrest rfl]

/-- Octets that are read as a text are the octets of that text. -/
theorem encode_of_decodeFrom {pos : Nat} {octets : Octets} {t : Text}
    (h : decodeFrom pos octets = .ok t) : encode t = octets := by
  fun_induction decodeFrom pos octets generalizing t
  case case1 =>
    cases h
    rfl
  case case2 ha ih => exact encode_of_map_cons h (encodeChar_one ha) ih
  case case6 ha ha' b rest hb n ih =>
    simp only [UInt8.lt_iff_toNat_lt, UInt8.reduceToNat, Nat.not_lt, Bool.not_eq_true',
      Bool.not_eq_false] at ha ha' hb
    exact encode_of_map_cons h (encodeChar_two ha ha' hb) ih
  case case11 ha ha' b hb c rest hc n ih =>
    simp only [UInt8.lt_iff_toNat_lt, UInt8.reduceToNat, Nat.not_lt, Bool.not_eq_true',
      Bool.not_eq_false] at ha ha' hb hc
    exact encode_of_map_cons h (encodeChar_three ha ha' hb hc) ih
  case case18 ha ha' b hb c hc d rest hd n ih =>
    simp only [UInt8.lt_iff_toNat_lt, UInt8.reduceToNat, Nat.not_lt, Bool.not_eq_true',
      Bool.not_eq_false] at ha ha' hb hc hd
    exact encode_of_map_cons h (encodeChar_four ha ha' hb hc hd) ih
  all_goals contradiction

/-- No octets but those of a text are read as that text. -/
theorem decode_eq_ok_iff {octets : Octets} {t : Text} :
    decode octets = .ok t ↔ octets = encode t := by
  constructor
  · intro h
    exact (encode_of_decodeFrom h).symm
  · rintro rfl
    exact decode_encode t

end LinePipe.Utf8
