import LiveTelemetry.Proofs.Json.Reads
/-!
How words and strings of a JSON text may be written. Main statements: what is written so is
what readers take, whatever follows it.
-/
namespace LiveTelemetry.Json

open Text (Symbol)

theorem keyword_eq_ok_iff {word : List Char} {s r : List Symbol} :
    keyword word s = .ok r ↔ s = word.map .scalar ++ r := by
  fun_induction keyword word s with
  | case1 s => simp [eq_comm]
  | case2 c cs => simp
  | case3 c cs rest ih => simpa using ih
  | case4 c cs d rest hd => simp [hd]

namespace Str

/-- Four hexadecimal digits, and the number they stand for. -/
inductive Quad : Nat → List Symbol → Prop
  | mk {a b c d : Symbol} {i j k l : Nat} (ha : hex? a = some i) (hb : hex? b = some j)
      (hc : hex? c = some k) (hd : hex? d = some l) :
      Quad (((i * 16 + j) * 16 + k) * 16 + l) [a, b, c, d]

theorem size_pos_of_hex? {s : Symbol} {n : Nat} (h : hex? s = some n) : 0 < s.size := by
  cases s with
  | scalar c => exact c.utf8Size_pos
  | broken m => contradiction

theorem hexEscape_eq_ok_iff {s r : List Symbol} {n : Nat} :
    hexEscape s = .ok (n, r) ↔ ∃ q, Quad n q ∧ s = q ++ r := by
  constructor
  · intro h
    unfold hexEscape at h
    split at h
    · contradiction
    · split at h
      · split at h
        · rename_i ha hb hc hd
          obtain ⟨rfl, rfl⟩ := Prod.mk.inj (Except.ok.inj h)
          exact ⟨_, .mk ha hb hc hd, rfl⟩
        · contradiction
      · contradiction
  · rintro ⟨_, @⟨a, b, c, d, i, j, k, l, ha, hb, hc, hd⟩, rfl⟩
    have hoctets : ¬ octets (List.take 4 (a :: b :: c :: d :: r)) < 4 := by
      have := size_pos_of_hex? ha
      have := size_pos_of_hex? hb
      have := size_pos_of_hex? hc
      have := size_pos_of_hex? hd
      simp only [octets, List.take_succ_cons, List.take_zero, List.foldl_cons, List.foldl_nil]
      omega
    change hexEscape (a :: b :: c :: d :: r) = _
    simp only [hexEscape, if_neg hoctets, ha, hb, hc, hd]

/-- What may stand behind a backslash, and the character it stands for. A character beyond the
first plane is written as two halves. -/
inductive Escaped : Char → List Symbol → Prop
  | named {e c : Char} (h : named? e = some c) : Escaped c [.scalar e]
  | numbered {n : Nat} {q : List Symbol} (number : Quad n q) (whole : n < 0xD800 ∨ 0xDFFF < n) :
      Escaped (Char.ofNat n) (.scalar 'u' :: q)
  | halves {m n : Nat} {p q : List Symbol} (high : Quad m p) (low : Quad n q)
      (first : 0xD800 ≤ m ∧ m ≤ 0xDBFF) (second : 0xDC00 ≤ n ∧ n ≤ 0xDFFF) :
      Escaped (Char.ofNat (0x10000 + (m - 0xD800) * 0x400 + (n - 0xDC00)))
        (.scalar 'u' :: p ++ .scalar '\\' :: .scalar 'u' :: q)

theorem lowHalf_eq_ok_iff {m : Nat} {s r : List Symbol} {c : Char} :
    lowHalf m s = .ok (c, r) ↔ ∃ n q, Quad n q ∧ (0xDC00 ≤ n ∧ n ≤ 0xDFFF) ∧
      c = Char.ofNat (0x10000 + (m - 0xD800) * 0x400 + (n - 0xDC00)) ∧
      s = .scalar '\\' :: .scalar 'u' :: q ++ r := by
  constructor
  · intro h
    unfold lowHalf at h
    split at h
    · contradiction
    · contradiction
    · split at h
      · contradiction
      · rename_i n rest hn
        obtain ⟨q, hq, rfl⟩ := hexEscape_eq_ok_iff.1 hn
        split at h
        · rename_i hrange
          obtain ⟨rfl, rfl⟩ := Prod.mk.inj (Except.ok.inj h)
          exact ⟨n, q, hq, hrange, rfl, rfl⟩
        · contradiction
    · contradiction
  · rintro ⟨n, q, hq, hrange, hc, rfl⟩
    have hn : hexEscape (q ++ r) = .ok (n, r) := hexEscape_eq_ok_iff.2 ⟨q, hq, rfl⟩
    simp only [lowHalf, List.cons_append, hn, if_pos hrange, hc]

theorem escape_eq_ok_iff {s r : List Symbol} {c : Char} :
    escape s = .ok (c, r) ↔ ∃ e, Escaped c e ∧ s = e ++ r := by
  constructor
  · intro h
    unfold escape at h
    split at h
    · contradiction
    · contradiction
    · split at h
      · rename_i hu
        subst hu
        unfold numbered at h
        split at h
        · contradiction
        · rename_i n rest hn
          obtain ⟨q, hq, rfl⟩ := hexEscape_eq_ok_iff.1 hn
          split at h
          · contradiction
          · split at h
            · rename_i hfirst
              obtain ⟨n', q', hq', hsecond, hc, rfl⟩ := lowHalf_eq_ok_iff.1 h
              rw [hc]
              exact ⟨_, .halves hq hq' hfirst hsecond, by simp⟩
            · rename_i hlow hhigh
              obtain ⟨rfl, rfl⟩ := Prod.mk.inj (Except.ok.inj h)
              exact ⟨_, .numbered hq (by omega), rfl⟩
      · split at h
        · rename_i hd
          obtain ⟨rfl, rfl⟩ := Prod.mk.inj (Except.ok.inj h)
          exact ⟨_, .named hd, rfl⟩
        · contradiction
  · rintro ⟨e, he, rfl⟩
    cases he with
    | @named e c h =>
      have hu : e ≠ 'u' := by
        rintro rfl
        contradiction
      simp only [escape, List.cons_append, List.nil_append, if_neg hu, h]
    | @numbered n q number whole =>
      have hn : hexEscape (q ++ r) = .ok (n, r) := hexEscape_eq_ok_iff.2 ⟨q, number, rfl⟩
      simp only [escape, List.cons_append, if_true, numbered, hn]
      rw [if_neg (by omega), if_neg (by omega)]
    | @halves m n p q high low first second =>
      have hm : hexEscape (p ++ (.scalar '\\' :: .scalar 'u' :: q ++ r)) =
          .ok (m, .scalar '\\' :: .scalar 'u' :: q ++ r) :=
        hexEscape_eq_ok_iff.2 ⟨p, high, rfl⟩
      have hlow := lowHalf_eq_ok_iff.2 ⟨n, q, low, second, Eq.refl (Char.ofNat
        (0x10000 + (m - 0xD800) * 0x400 + (n - 0xDC00))), Eq.refl (_ ++ r)⟩
      have hlist : .scalar 'u' :: p ++ .scalar '\\' :: .scalar 'u' :: q ++ r =
          .scalar 'u' :: (p ++ (.scalar '\\' :: .scalar 'u' :: q ++ r)) := by simp
      rw [hlist]
      simp only [escape, if_true, numbered, hm]
      rw [if_neg (by omega), if_pos first]
      exact hlow

/-- What may stand between the marks of a string that is read, and the characters it stands for. -/
inductive Spells : List Char → List Symbol → Prop
  | nil : Spells [] []
  | plain {c : Char} {cs : List Char} {t : List Symbol} (mark : c ≠ '"') (back : c ≠ '\\')
      (visible : ¬ c.toNat < 0x20) (rest : Spells cs t) : Spells (c :: cs) (.scalar c :: t)
  | escaped {c : Char} {cs : List Char} {e t : List Symbol} (escape : Escaped c e)
      (rest : Spells cs t) : Spells (c :: cs) (.scalar '\\' :: e ++ t)

theorem exists_of_body {done : List Char} {sound : Bool} {s r : List Symbol} {a : String}
    (h : body done sound s = .ok (a, r)) :
    sound = true ∧ ∃ cs t, Spells cs t ∧ s = t ++ .scalar '"' :: r ∧
      a = String.ofList (done.reverse ++ cs) := by
  fun_induction body done sound s with
  | case1 => contradiction
  | case2 done sound n rest ih => exact absurd (ih h).1 (by simp)
  | case3 done rest =>
    obtain ⟨rfl, rfl⟩ := Prod.mk.inj (Except.ok.inj h)
    exact ⟨rfl, [], [], .nil, rfl, by simp⟩
  | case4 => contradiction
  | case5 => contradiction
  | case6 done sound rest d after he _ _ ih =>
    obtain ⟨hsound, cs, t, hspells, rfl, rfl⟩ := ih h
    obtain ⟨e, hescaped, rfl⟩ := escape_eq_ok_iff.1 he
    exact ⟨hsound, d :: cs, _, .escaped hescaped hspells, by simp, by simp⟩
  | case7 => contradiction
  | case8 done sound c rest hmark hback hvisible ih =>
    obtain ⟨hsound, cs, t, hspells, rfl, rfl⟩ := ih h
    exact ⟨hsound, c :: cs, _, .plain hmark hback hvisible hspells, rfl, by simp⟩

theorem body_spelled {cs : List Char} {t : List Symbol} (h : Spells cs t) (done : List Char)
    (r : List Symbol) :
    body done true (t ++ .scalar '"' :: r) = .ok (String.ofList (done.reverse ++ cs), r) := by
  induction h generalizing done with
  | nil =>
    rw [List.nil_append, body]
    simp
  | @plain c cs t mark back visible rest ih =>
    rw [List.cons_append, body_plain mark back visible, ih]
    simp
  | @escaped c cs e t escape rest ih =>
    have hescape : Str.escape (e ++ (t ++ .scalar '"' :: r)) = .ok (c, t ++ .scalar '"' :: r) :=
      escape_eq_ok_iff.2 ⟨e, escape, rfl⟩
    rw [List.append_assoc, List.cons_append, body_escape hescape, ih]
    simp

/-- A string is read for what is spelled between its marks. -/
theorem reader_eq_ok_iff {s r : List Symbol} {a : String} :
    reader.run s = .ok (a, r) ↔ ∃ t, Spells a.toList t ∧ s = t ++ .scalar '"' :: r := by
  constructor
  · intro h
    obtain ⟨-, cs, t, hspells, hs, rfl⟩ := exists_of_body h
    exact ⟨t, by simpa using hspells, hs⟩
  · rintro ⟨t, hspells, rfl⟩
    simpa [reader] using body_spelled hspells [] r

/-- What may stand between the marks of a string that is passed over. Nobody looks at what a number
stands for there, or minds a gap. -/
inductive Passable : List Symbol → Prop
  | nil : Passable []
  | plain {c : Char} {t : List Symbol} (mark : c ≠ '"') (back : c ≠ '\\')
      (visible : ¬ c.toNat < 0x20) (rest : Passable t) : Passable (.scalar c :: t)
  | gap (n : Nat) {t : List Symbol} (rest : Passable t) : Passable (.broken n :: t)
  | named {e c : Char} {t : List Symbol} (h : named? e = some c) (rest : Passable t) :
      Passable (.scalar '\\' :: .scalar e :: t)
  | numbered {n : Nat} {q t : List Symbol} (number : Quad n q) (rest : Passable t) :
      Passable (.scalar '\\' :: .scalar 'u' :: q ++ t)

theorem Spells.passable {cs : List Char} {t : List Symbol} (h : Spells cs t) : Passable t := by
  induction h with
  | nil => exact .nil
  | plain mark back visible _ ih => exact .plain mark back visible ih
  | escaped escape _ ih =>
    cases escape with
    | named h => exact .named h ih
    | numbered number whole => exact .numbered number ih
    | halves high low first second => simpa using Passable.numbered high (.numbered low ih)

theorem skipEscape_eq_ok {s r : List Symbol} (h : skipEscape s = .ok r) :
    (∃ e c, named? e = some c ∧ s = .scalar e :: r) ∨
      ∃ n q, Quad n q ∧ s = .scalar 'u' :: q ++ r := by
  unfold skipEscape at h
  split at h
  · contradiction
  · contradiction
  · split at h
    · rename_i hu
      subst hu
      obtain ⟨⟨n, r'⟩, hn, rfl⟩ := map_eq_ok.1 h
      obtain ⟨q, hq, rfl⟩ := hexEscape_eq_ok_iff.1 hn
      exact .inr ⟨n, q, hq, rfl⟩
    · split at h
      · rename_i hnamed
        obtain ⟨c, hc⟩ := Option.isSome_iff_exists.1 hnamed
        obtain rfl := Except.ok.inj h
        exact .inl ⟨_, c, hc, rfl⟩
      · contradiction

theorem exists_of_skip {s r : List Symbol} (h : skip s = .ok r) :
    ∃ t, Passable t ∧ s = t ++ .scalar '"' :: r := by
  fun_induction skip s with
  | case1 => contradiction
  | case2 n rest ih =>
    obtain ⟨t, ht, rfl⟩ := ih h
    exact ⟨_, .gap n ht, rfl⟩
  | case3 rest =>
    obtain rfl := Except.ok.inj h
    exact ⟨[], .nil, rfl⟩
  | case4 => contradiction
  | case5 rest after he _ _ ih =>
    obtain ⟨t, ht, rfl⟩ := ih h
    rcases skipEscape_eq_ok he with ⟨e, c, hnamed, rfl⟩ | ⟨n, q, hq, rfl⟩
    · exact ⟨_, .named hnamed ht, rfl⟩
    · exact ⟨_, .numbered hq ht, by simp⟩
  | case6 => contradiction
  | case7 c rest hmark hback hvisible ih =>
    obtain ⟨t, ht, rfl⟩ := ih h
    exact ⟨_, .plain hmark hback hvisible ht, rfl⟩

theorem skip_escape {s after : List Symbol} (h : skipEscape s = .ok after) :
    skip (.scalar '\\' :: s) = skip after := by
  rw [skip, if_neg (by decide), if_pos rfl]
  split
  · rename_i e he
    rw [h] at he
    contradiction
  · rename_i after' he
    rw [h] at he
    obtain rfl := Except.ok.inj he
    rfl

theorem skip_passable {t : List Symbol} (h : Passable t) (r : List Symbol) :
    skip (t ++ .scalar '"' :: r) = .ok r := by
  induction h with
  | nil =>
    rw [List.nil_append, skip]
    simp
  | plain mark back visible _ ih =>
    rw [List.cons_append, skip, if_neg mark, if_neg back, if_neg visible, ih]
  | gap n _ ih => rw [List.cons_append, skip, ih]
  | @named e c t h _ ih =>
    have hu : e ≠ 'u' := by
      rintro rfl
      contradiction
    have hskip : skipEscape (.scalar e :: (t ++ .scalar '"' :: r)) =
        .ok (t ++ .scalar '"' :: r) := by
      simp [skipEscape, hu, h]
    exact (skip_escape hskip).trans ih
  | @numbered n q t number _ ih =>
    have hn : hexEscape (q ++ (t ++ .scalar '"' :: r)) = .ok (n, t ++ .scalar '"' :: r) :=
      hexEscape_eq_ok_iff.2 ⟨q, number, rfl⟩
    have hskip : skipEscape (.scalar 'u' :: (q ++ (t ++ .scalar '"' :: r))) =
        .ok (t ++ .scalar '"' :: r) := by
      simp [skipEscape, hn, Except.map]
    rw [List.append_assoc]
    exact (skip_escape hskip).trans ih

/-- A string is passed over up to its closing mark. -/
theorem skip_eq_ok_iff {s r : List Symbol} :
    skip s = .ok r ↔ ∃ t, Passable t ∧ s = t ++ .scalar '"' :: r := by
  constructor
  · exact exists_of_skip
  · rintro ⟨t, ht, rfl⟩
    exact skip_passable ht r

end Str

end LiveTelemetry.Json
