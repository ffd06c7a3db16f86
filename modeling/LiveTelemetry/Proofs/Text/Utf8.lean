import LiveTelemetry.Text.Utf8
/-!
Text as bytes. Main statement: the bytes that spell a text are read for that text, and no others
are.
-/
namespace LiveTelemetry.Text.Utf8

theorem toNat_ofNat {n : Nat} (h : n < 256) : (UInt8.ofNat n).toNat = n :=
  UInt8.toNat_ofNat_of_lt' h

section

variable {value taken needed low high b : Nat} (hlow : low ≤ b) (hhigh : b ≤ high) (hb : b < 256)
include hlow hhigh hb

/-- A byte that ends a character. -/
theorem decodeFrom_last {c : Char} (hvalue : value * 64 + (b - 0x80) = c.toNat)
    (rest : List UInt8) :
    decodeFrom (some ⟨value, taken, 1, low, high⟩) (UInt8.ofNat b :: rest) =
      .scalar c :: decodeFrom none rest := by
  have hrange : low ≤ b ∧ b ≤ high := ⟨hlow, hhigh⟩
  simp only [decodeFrom, toNat_ofNat hb, if_pos hrange, Unfinished.push, Nat.le_refl, if_true,
    hvalue, Char.ofNat_toNat]

/-- A byte that a character goes on after. -/
theorem decodeFrom_push (rest : List UInt8) :
    decodeFrom (some ⟨value, taken, needed + 2, low, high⟩) (UInt8.ofNat b :: rest) =
      decodeFrom (some ⟨value * 64 + (b - 0x80), taken + 1, needed + 1, 0x80, 0xBF⟩) rest := by
  have hrange : low ≤ b ∧ b ≤ high := ⟨hlow, hhigh⟩
  have hmore : ¬ needed + 2 ≤ 1 := by omega
  simp only [decodeFrom, toNat_ofNat hb, if_pos hrange, Unfinished.push, if_neg hmore]
  rfl

end

/-- A byte that a character begins with. -/
theorem decodeFrom_lead {p : Unfinished} {b : Nat} (hb : b < 256) (hlead : lead b = .inr p)
    (rest : List UInt8) :
    decodeFrom none (UInt8.ofNat b :: rest) = decodeFrom (some p) rest := by
  simp only [decodeFrom, toNat_ofNat hb, hlead]

theorem lead_one {b : Nat} (h : b < 0x80) : lead b = .inl (.scalar (Char.ofNat b)) := if_pos h

theorem lead_two {b : Nat} (hlo : 0xC2 ≤ b) (hhi : b < 0xE0) :
    lead b = .inr ⟨b - 0xC0, 1, 1, 0x80, 0xBF⟩ := by
  rw [lead, if_neg (by omega), if_neg (by omega), if_pos hhi]

theorem lead_three {b : Nat} (hlo : 0xE0 ≤ b) (hhi : b < 0xF0) :
    lead b = .inr ⟨b - 0xE0, 1, 2, if b = 0xE0 then 0xA0 else 0x80,
      if b = 0xED then 0x9F else 0xBF⟩ := by
  rw [lead, if_neg (by omega), if_neg (by omega), if_neg (by omega), if_pos hhi]

theorem lead_four {b : Nat} (hlo : 0xF0 ≤ b) (hhi : b < 0xF5) :
    lead b = .inr ⟨b - 0xF0, 1, 3, if b = 0xF0 then 0x90 else 0x80,
      if b = 0xF4 then 0x8F else 0xBF⟩ := by
  rw [lead, if_neg (by omega), if_neg (by omega), if_neg (by omega), if_neg (by omega), if_pos hhi]

theorem lead_none {b : Nat} (h : 0x80 ≤ b ∧ b < 0xC2 ∨ 0xF5 ≤ b) :
    lead b = .inl (.broken 1) := by
  rcases h with ⟨hlo, hhi⟩ | hlo
  · rw [lead, if_neg (by omega), if_pos hhi]
  · rw [lead, if_neg (by omega), if_neg (by omega), if_neg (by omega), if_neg (by omega),
      if_neg (by omega)]

theorem decodeFrom_encodeChar (c : Char) (rest : List UInt8) :
    decodeFrom none (String.utf8EncodeChar c ++ rest) = .scalar c :: decodeFrom none rest := by
  -- No character is a half of a pair, so no three bytes are ones that would spell one.
  have hvalid : c.toNat < 0xD800 ∨ 0xDFFF < c.toNat ∧ c.toNat < 0x110000 := c.valid
  have hv : c.val.toNat = c.toNat := rfl
  unfold String.utf8EncodeChar
  simp only [hv]
  split
  · rename_i h1
    have hone : c.toNat < 0x80 := by omega
    have hbyte : c.toNat < 256 := by omega
    simp only [List.cons_append, List.nil_append, decodeFrom, toNat_ofNat hbyte, lead_one hone,
      Char.ofNat_toNat]
  split
  · rename_i h1 h2
    simp only [List.cons_append, List.nil_append]
    rw [decodeFrom_lead (by omega) (lead_two (by omega) (by omega))]
    exact decodeFrom_last (by omega) (by omega) (by omega) (by omega) rest
  split
  · rename_i h1 h2 h3
    simp only [List.cons_append, List.nil_append]
    rw [decodeFrom_lead (by omega) (lead_three (by omega) (by omega)),
      decodeFrom_push (by split <;> omega) (by split <;> omega) (by omega)]
    exact decodeFrom_last (by omega) (by omega) (by omega) (by omega) rest
  · rename_i h1 h2 h3
    simp only [List.cons_append, List.nil_append]
    rw [decodeFrom_lead (by omega) (lead_four (by omega) (by omega)),
      decodeFrom_push (by split <;> omega) (by split <;> omega) (by omega),
      decodeFrom_push (by omega) (by omega) (by omega)]
    exact decodeFrom_last (by omega) (by omega) (by omega) (by omega) rest

/-- The bytes that spell a text are read for that text. -/
theorem decode_encode (cs : List Char) : decode (encode cs) = cs.map .scalar := by
  unfold decode encode
  induction cs with
  | nil => rfl
  | cons c cs ih => rw [List.flatMap_cons, decodeFrom_encodeChar, ih, List.map_cons]

section

variable {value taken needed low high : Nat} {bytes : List UInt8} {cs : List Char}

/-- A character of which one byte is missing is ended by that byte. -/
theorem exists_of_decodeFrom_last
    (h : decodeFrom (some ⟨value, taken, 1, low, high⟩) bytes = cs.map .scalar) :
    ∃ b rest cs', bytes = b :: rest ∧ low ≤ b.toNat ∧ b.toNat ≤ high ∧
      cs = Char.ofNat (value * 64 + (b.toNat - 0x80)) :: cs' ∧
      decodeFrom none rest = cs'.map .scalar := by
  cases bytes with
  | nil => cases cs <;> simp [decodeFrom] at h
  | cons b rest =>
    rw [decodeFrom] at h
    split at h
    · rename_i hrange
      cases cs with
      | nil => contradiction
      | cons c cs' =>
        obtain ⟨hc, hrest⟩ := List.cons.inj h
        exact ⟨b, rest, cs', rfl, hrange.1, hrange.2, by rw [Symbol.scalar.inj hc], hrest⟩
    · cases cs <;> simp at h

/-- A character of which more bytes are missing goes on with the first of them. -/
theorem exists_of_decodeFrom_push
    (h : decodeFrom (some ⟨value, taken, needed + 2, low, high⟩) bytes = cs.map .scalar) :
    ∃ b rest, bytes = b :: rest ∧ low ≤ b.toNat ∧ b.toNat ≤ high ∧
      decodeFrom (some ⟨value * 64 + (b.toNat - 0x80), taken + 1, needed + 1, 0x80, 0xBF⟩) rest =
        cs.map .scalar := by
  cases bytes with
  | nil => cases cs <;> simp [decodeFrom] at h
  | cons b rest =>
    rw [decodeFrom] at h
    split at h
    · rename_i hrange
      exact ⟨b, rest, rfl, hrange.1, hrange.2, h⟩
    · cases cs <;> simp at h

end

theorem ofNat_eq {b : UInt8} {n : Nat} (h : n = b.toNat) : UInt8.ofNat n = b := by
  rw [h, UInt8.ofNat_toNat]

theorem toNat_char {n : Nat} (h : n.isValidChar) : (Char.ofNat n).val.toNat = n := by
  rw [Char.ofNat, dif_pos h]
  rfl

section

variable {a b c d : UInt8} {n : Nat}

theorem encodeChar_one (ha : a.toNat < 0x80) :
    String.utf8EncodeChar (Char.ofNat a.toNat) = [a] := by
  have hvalid : a.toNat.isValidChar := .inl (by omega)
  rw [String.utf8EncodeChar]
  simp only [toNat_char hvalid]
  rw [if_pos (by omega), UInt8.ofNat_toNat]

theorem encodeChar_two (hn : n = (a.toNat - 0xC0) * 64 + (b.toNat - 0x80))
    (ha : 0xC2 ≤ a.toNat ∧ a.toNat < 0xE0) (hb : 0x80 ≤ b.toNat ∧ b.toNat ≤ 0xBF) :
    String.utf8EncodeChar (Char.ofNat n) = [a, b] := by
  have hvalid : n.isValidChar := .inl (by omega)
  have hfirst : UInt8.ofNat (n / 64 % 32 + 192) = a := ofNat_eq (by omega)
  have hsecond : UInt8.ofNat (n % 64 + 128) = b := ofNat_eq (by omega)
  rw [String.utf8EncodeChar]
  simp only [toNat_char hvalid]
  rw [if_neg (by omega), if_pos (by omega), hfirst, hsecond]

theorem encodeChar_three
    (hn : n = ((a.toNat - 0xE0) * 64 + (b.toNat - 0x80)) * 64 + (c.toNat - 0x80))
    (ha : 0xE0 ≤ a.toNat ∧ a.toNat < 0xF0)
    (hlow : (if a.toNat = 0xE0 then 0xA0 else 0x80) ≤ b.toNat)
    (hhigh : b.toNat ≤ if a.toNat = 0xED then 0x9F else 0xBF)
    (hc : 0x80 ≤ c.toNat ∧ c.toNat ≤ 0xBF) :
    String.utf8EncodeChar (Char.ofNat n) = [a, b, c] := by
  -- The bounds on the second byte leave out the short characters and the halves of pairs.
  have hb : 0x80 ≤ b.toNat ∧ b.toNat ≤ 0xBF := by
    constructor
    · split at hlow <;> omega
    · split at hhigh <;> omega
  have hlong : 0x800 ≤ n := by split at hlow <;> omega
  have hvalid : n.isValidChar := by
    unfold Nat.isValidChar
    split at hhigh <;> omega
  have hfirst : UInt8.ofNat (n / 4096 % 16 + 224) = a := ofNat_eq (by omega)
  have hsecond : UInt8.ofNat (n / 64 % 64 + 128) = b := ofNat_eq (by omega)
  have hthird : UInt8.ofNat (n % 64 + 128) = c := ofNat_eq (by omega)
  rw [String.utf8EncodeChar]
  simp only [toNat_char hvalid]
  rw [if_neg (by omega), if_neg (by omega), if_pos (by omega), hfirst, hsecond, hthird]

theorem encodeChar_four
    (hn : n = (((a.toNat - 0xF0) * 64 + (b.toNat - 0x80)) * 64 + (c.toNat - 0x80)) * 64 +
      (d.toNat - 0x80))
    (ha : 0xF0 ≤ a.toNat ∧ a.toNat < 0xF5)
    (hlow : (if a.toNat = 0xF0 then 0x90 else 0x80) ≤ b.toNat)
    (hhigh : b.toNat ≤ if a.toNat = 0xF4 then 0x8F else 0xBF)
    (hc : 0x80 ≤ c.toNat ∧ c.toNat ≤ 0xBF) (hd : 0x80 ≤ d.toNat ∧ d.toNat ≤ 0xBF) :
    String.utf8EncodeChar (Char.ofNat n) = [a, b, c, d] := by
  have hb : 0x80 ≤ b.toNat ∧ b.toNat ≤ 0xBF := by
    constructor
    · split at hlow <;> omega
    · split at hhigh <;> omega
  have hlong : 0x10000 ≤ n := by split at hlow <;> omega
  have hvalid : n.isValidChar := by
    unfold Nat.isValidChar
    split at hhigh <;> omega
  have hfirst : UInt8.ofNat (n / 262144 % 8 + 240) = a := ofNat_eq (by omega)
  have hsecond : UInt8.ofNat (n / 4096 % 64 + 128) = b := ofNat_eq (by omega)
  have hthird : UInt8.ofNat (n / 64 % 64 + 128) = c := ofNat_eq (by omega)
  have hfourth : UInt8.ofNat (n % 64 + 128) = d := ofNat_eq (by omega)
  rw [String.utf8EncodeChar]
  simp only [toNat_char hvalid]
  rw [if_neg (by omega), if_neg (by omega), if_neg (by omega), hfirst, hsecond, hthird, hfourth]

end

/-- Bytes that are read for a text begin with those of its first character. -/
theorem exists_of_decode_cons {bytes : List UInt8} {c : Char} {cs : List Char}
    (h : decode bytes = (c :: cs).map .scalar) :
    ∃ rest, bytes = String.utf8EncodeChar c ++ rest ∧ decode rest = cs.map .scalar := by
  unfold decode at h ⊢
  cases bytes with
  | nil => simp [decodeFrom] at h
  | cons a bytes =>
    have hlead : a.toNat < 0x80 ∨ (0x80 ≤ a.toNat ∧ a.toNat < 0xC2 ∨ 0xF5 ≤ a.toNat) ∨
        (0xC2 ≤ a.toNat ∧ a.toNat < 0xE0) ∨ (0xE0 ≤ a.toNat ∧ a.toNat < 0xF0) ∨
        (0xF0 ≤ a.toNat ∧ a.toNat < 0xF5) := by omega
    rw [decodeFrom] at h
    rcases hlead with ha | ha | ha | ha | ha
    · rw [lead_one ha] at h
      obtain ⟨hc, hrest⟩ := List.cons.inj h
      obtain rfl := Symbol.scalar.inj hc
      exact ⟨bytes, by rw [encodeChar_one ha]; rfl, hrest⟩
    · rw [lead_none ha] at h
      simp at h
    · rw [lead_two ha.1 ha.2] at h
      obtain ⟨b, rest, cs', rfl, hb, hb', heq, hrest⟩ := exists_of_decodeFrom_last h
      obtain ⟨hchar, htail⟩ := List.cons.inj heq
      have hbytes := encodeChar_two rfl ha ⟨hb, hb'⟩
      exact ⟨rest, by rw [hchar, hbytes]; rfl, htail ▸ hrest⟩
    · rw [lead_three ha.1 ha.2] at h
      obtain ⟨b, _, rfl, hb, hb', h⟩ := exists_of_decodeFrom_push h
      obtain ⟨c, rest, cs', rfl, hc, hc', heq, hrest⟩ := exists_of_decodeFrom_last h
      obtain ⟨hchar, htail⟩ := List.cons.inj heq
      have hbytes := encodeChar_three rfl ha hb hb' ⟨hc, hc'⟩
      exact ⟨rest, by rw [hchar, hbytes]; rfl, htail ▸ hrest⟩
    · rw [lead_four ha.1 ha.2] at h
      obtain ⟨b, _, rfl, hb, hb', h⟩ := exists_of_decodeFrom_push h
      obtain ⟨c, _, rfl, hc, hc', h⟩ := exists_of_decodeFrom_push h
      obtain ⟨d, rest, cs', rfl, hd, hd', heq, hrest⟩ := exists_of_decodeFrom_last h
      obtain ⟨hchar, htail⟩ := List.cons.inj heq
      have hbytes := encodeChar_four rfl ha hb hb' ⟨hc, hc'⟩ ⟨hd, hd'⟩
      exact ⟨rest, by rw [hchar, hbytes]; rfl, htail ▸ hrest⟩

/-- A character that has begun is read for something, whatever follows. -/
theorem decodeFrom_some_ne_nil (p : Unfinished) (bytes : List UInt8) :
    decodeFrom (some p) bytes ≠ [] := by
  induction bytes generalizing p with
  | nil => simp [decodeFrom]
  | cons b bytes ih =>
    rw [decodeFrom]
    split
    · split
      · simp
      · exact ih _
    · simp

theorem decode_cons_ne_nil (b : UInt8) (bytes : List UInt8) : decode (b :: bytes) ≠ [] := by
  rw [decode, decodeFrom]
  split
  · simp
  · exact decodeFrom_some_ne_nil _ bytes

/-- No bytes are read for a text but those that spell it. -/
theorem eq_encode_of_decode {bytes : List UInt8} {cs : List Char}
    (h : decode bytes = cs.map .scalar) : bytes = encode cs := by
  induction cs generalizing bytes with
  | nil =>
    cases bytes with
    | nil => rfl
    | cons b bytes => exact absurd h (decode_cons_ne_nil b bytes)
  | cons c cs ih =>
    obtain ⟨rest, rfl, hrest⟩ := exists_of_decode_cons h
    rw [ih hrest]
    rfl

theorem mapM_char?_eq_some_iff {symbols : List Symbol} {cs : List Char} :
    symbols.mapM Symbol.char? = some cs ↔ symbols = cs.map .scalar := by
  induction symbols generalizing cs with
  | nil => cases cs <;> simp
  | cons s symbols ih =>
    rw [List.mapM_cons, Option.bind_eq_bind, Option.bind_eq_some_iff]
    constructor
    · intro h
      obtain ⟨c, hc, h⟩ := h
      obtain ⟨rest, hrest, h⟩ := Option.bind_eq_some_iff.1 h
      obtain rfl := Option.some.inj h
      cases s with
      | scalar c' =>
        obtain rfl := Option.some.inj hc
        rw [ih.1 hrest]
        rfl
      | broken n => contradiction
    · intro h
      cases cs with
      | nil => contradiction
      | cons c cs =>
        obtain ⟨rfl, hrest⟩ := List.cons.inj h
        exact ⟨c, rfl, by rw [ih.2 hrest]; rfl⟩

/-- The bytes that are read for a text are those that spell it. -/
theorem text?_eq_some_iff {bytes : List UInt8} {text : String} :
    text? bytes = some text ↔ bytes = encode text.toList := by
  rw [text?, Option.map_eq_some_iff]
  constructor
  · intro h
    obtain ⟨cs, hcs, rfl⟩ := h
    rw [String.toList_ofList]
    exact eq_encode_of_decode (mapM_char?_eq_some_iff.1 hcs)
  · intro h
    refine ⟨text.toList, mapM_char?_eq_some_iff.2 ?_, String.ofList_toList⟩
    rw [h, decode_encode]

end LiveTelemetry.Text.Utf8
