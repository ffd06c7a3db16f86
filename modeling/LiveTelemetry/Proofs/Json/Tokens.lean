import LiveTelemetry.Json.Parser
import LiveTelemetry.Json.Printer
import LiveTelemetry.Text.Numeral
/-!
Strings and integers of printed JSON. Main statement: each is read for what it was printed from,
whatever follows it, if no number goes on in that.
-/
namespace LiveTelemetry.Json

open Text (Symbol)

/-- Text that a number in front of it does not go on with. -/
def Closed (rest : List Symbol) : Prop :=
  ∀ s ∈ rest.head?, Number.digit? s = none ∧ s ≠ .scalar '.' ∧ Number.isExponentMark s = false

theorem closed_nil : Closed [] := by simp [Closed]

theorem closed_comma (rest : List Symbol) : Closed (.scalar ',' :: rest) := by
  rintro s ⟨⟩
  decide

theorem closed_bracket (rest : List Symbol) : Closed (.scalar ']' :: rest) := by
  rintro s ⟨⟩
  decide

theorem closed_brace (rest : List Symbol) : Closed (.scalar '}' :: rest) := by
  rintro s ⟨⟩
  decide

namespace Str

theorem body_plain {c : Char} (hmark : c ≠ '"') (hback : c ≠ '\\') (hcontrol : ¬ c.toNat < 0x20)
    (done : List Char) (rest : List Symbol) :
    body done true (.scalar c :: rest) = body (c :: done) true rest := by
  rw [body, if_neg hmark, if_neg hback, if_neg hcontrol]

theorem body_escape {s rest : List Symbol} {c : Char} (h : escape s = .ok (c, rest))
    (done : List Char) : body done true (.scalar '\\' :: s) = body (c :: done) true rest := by
  rw [body, if_neg (by decide), if_pos rfl]
  split
  · rename_i e he
    rw [h] at he
    contradiction
  · rename_i d after he
    rw [h] at he
    obtain ⟨rfl, rfl⟩ := Prod.mk.inj (Except.ok.inj he)
    rfl

theorem hex?_digitChar {d : Nat} (h : d < 16) : hex? (.scalar (Nat.digitChar d)) = some d := by
  revert d
  decide

/-- A control is read from its number, which has two digits. -/
theorem escape_control {c : Char} (h : c.toNat < 0x20) (rest : List Symbol) :
    escape (.scalar 'u' :: .scalar '0' :: .scalar '0' :: .scalar (Nat.digitChar (c.toNat / 16)) ::
      .scalar (Nat.digitChar (c.toNat % 16)) :: rest) = .ok (c, rest) := by
  have hsize (d : Nat) (hd : d < 16) : (Nat.digitChar d).utf8Size = 1 := by
    revert d
    decide
  have hzero : hex? (.scalar '0') = some 0 := by decide
  have hhigh : c.toNat / 16 < 16 := by omega
  have hlow : c.toNat % 16 < 16 := Nat.mod_lt _ (by decide)
  have hoctets : octets (List.take 4 (.scalar '0' :: .scalar '0' ::
      .scalar (Nat.digitChar (c.toNat / 16)) :: .scalar (Nat.digitChar (c.toNat % 16)) :: rest)) =
      4 := by
    simp only [octets, List.take_succ_cons, List.take_zero, List.foldl_cons, List.foldl_nil,
      Symbol.size, hsize _ hhigh, hsize _ hlow]
    rfl
  have hvalue : ((0 * 16 + 0) * 16 + c.toNat / 16) * 16 + c.toNat % 16 = c.toNat := by omega
  have hescape : hexEscape (.scalar '0' :: .scalar '0' :: .scalar (Nat.digitChar (c.toNat / 16)) ::
      .scalar (Nat.digitChar (c.toNat % 16)) :: rest) = .ok (c.toNat, rest) := by
    simp only [hexEscape, hoctets, Nat.lt_irrefl, if_false, hzero, hex?_digitChar hhigh,
      hex?_digitChar hlow, hvalue]
  simp only [escape, numbered, hescape, if_true]
  rw [if_neg (by omega), if_neg (by omega), Char.ofNat_toNat]

theorem body_escapeChar (c : Char) (done : List Char) (rest : List Symbol) :
    body done true ((escapeChar c).map .scalar ++ rest) = body (c :: done) true rest := by
  unfold escapeChar
  -- Seven characters have letters of their own.
  iterate 7
    split
    · subst_vars
      exact body_escape rfl done
  split
  · rename_i h
    exact body_escape (escape_control h rest) done
  · rename_i hmark hback _ _ _ _ _ hcontrol
    exact body_plain hmark hback hcontrol done rest

theorem body_escaped (cs done : List Char) (rest : List Symbol) :
    body done true ((cs.flatMap escapeChar).map .scalar ++ rest) =
      body (cs.reverse ++ done) true rest := by
  induction cs generalizing done with
  | nil => rfl
  | cons c cs ih =>
    rw [List.flatMap_cons, List.map_append, List.append_assoc, body_escapeChar, ih]
    simp

/-- A printed string is read from behind its opening mark. -/
theorem reader_run (s : String) (rest : List Symbol) :
    reader.run ((s.toList.flatMap escapeChar ++ ['"']).map .scalar ++ rest) = .ok (s, rest) := by
  have hend : body s.toList.reverse true (.scalar '"' :: rest) = .ok (s, rest) := by
    rw [body]
    simp
  simpa [reader, body_escaped] using hend

end Str

namespace Number

/-- The values of digits. -/
def digits (n : Nat) : List Nat := (Nat.toDigits 10 n).map fun c => c.toNat - '0'.toNat

theorem digit?_of_isDigit {c : Char} (h : c.isDigit = true) :
    digit? (.scalar c) = some (c.toNat - '0'.toNat) := by
  have hrange : '0' ≤ c ∧ c ≤ '9' := Char.isDigit_iff_toNat.1 h
  rw [digit?, if_pos hrange]

theorem takeDigits_append {ds : List Char} {rest : List Symbol} (hd : ∀ c ∈ ds, c.isDigit = true)
    (hrest : ∀ s ∈ rest.head?, digit? s = none) :
    takeDigits (ds.map .scalar ++ rest) = (ds.map fun c => c.toNat - '0'.toNat, rest) := by
  induction ds with
  | nil =>
    cases rest with
    | nil => rfl
    | cons s rest =>
      have hs : digit? s = none := hrest s rfl
      simp [takeDigits, hs]
  | cons d ds ih =>
    obtain ⟨hdigit, hds⟩ := List.forall_mem_cons.1 hd
    simp [takeDigits, digit?_of_isDigit hdigit, ih hds]

/-- Digits of a number within the limit are all taken up. -/
theorem absorb_eq {limit : Nat} {ds : List Nat} {n : Nat}
    (h : ds.foldl (fun n d => n * 10 + d) n ≤ limit) :
    absorb limit n ds = (ds.foldl (fun n d => n * 10 + d) n, []) := by
  induction ds generalizing n with
  | nil => rfl
  | cons d ds ih =>
    have hle (ds : List Nat) (n : Nat) : n ≤ ds.foldl (fun n d => n * 10 + d) n := by
      induction ds generalizing n with
      | nil => exact Nat.le_refl n
      | cons d ds ih => exact Nat.le_trans (by omega) (ih (n * 10 + d))
    have hfirst : n * 10 + d ≤ limit := Nat.le_trans (hle ds _) h
    rw [absorb, if_pos hfirst, ih h]
    rfl

theorem foldl_digits (n : Nat) : (digits n).foldl (fun n d => n * 10 + d) 0 = n := by
  rw [digits, List.foldl_map]
  exact Text.Numeral.value_toDigits n

theorem digits_of_lt {n : Nat} (h : n < 10) : digits n = [n] := by
  simp [digits, Nat.toDigits_of_lt_base h, Nat.toNat_digitChar_of_lt_ten h]

theorem digits_of_le {n : Nat} (h : 10 ≤ n) : digits n = digits (n / 10) ++ [n % 10] := by
  have hlt : n % 10 < 10 := Nat.mod_lt n (by decide)
  simp [digits, Nat.toDigits_of_base_le (by decide) h, Nat.toNat_digitChar_of_lt_ten hlt]

theorem digits_ne_nil (n : Nat) : digits n ≠ [] := by
  simp [digits, Nat.toDigits_ne_nil]

/-- Only zero begins with a zero. -/
theorem eq_zero_of_head?_digits {n : Nat} (h : (digits n).head? = some 0) : n = 0 := by
  induction n using Nat.strongRecOn with
  | _ n ih =>
    rcases Nat.lt_or_ge n 10 with hn | hn
    · simpa [digits_of_lt hn] using h
    · obtain ⟨d, ds, hds⟩ := List.exists_cons_of_ne_nil (digits_ne_nil (n / 10))
      have hhead : (digits (n / 10)).head? = some 0 := by
        simpa [digits_of_le hn, hds] using h
      have hzero : n / 10 = 0 := ih (n / 10) (by omega) hhead
      omega

theorem someDigits_digits (n : Nat) {rest : List Symbol}
    (hrest : ∀ s ∈ rest.head?, digit? s = none) :
    someDigits ((Nat.toDigits 10 n).map .scalar ++ rest) = .ok (digits n, rest) := by
  have hd : ∀ c ∈ Nat.toDigits 10 n, c.isDigit = true :=
    fun c hc => Nat.isDigit_of_mem_toDigits (by decide) (by decide) hc
  unfold someDigits
  rw [takeDigits_append hd hrest]
  obtain ⟨d, ds, hds⟩ := List.exists_cons_of_ne_nil (digits_ne_nil n)
  unfold digits at hds ⊢
  rw [hds]

theorem unsigned_digits (negative : Bool) {n : Nat} (h : n ≤ significandLimit)
    {rest : List Symbol} (hrest : Closed rest) :
    unsigned negative ((Nat.toDigits 10 n).map .scalar ++ rest) =
      .ok (ofInteger negative n, rest) := by
  have hdigit : ∀ s ∈ rest.head?, digit? s = none := fun s hs => (hrest s hs).1
  have hzero : ¬ ((digits n).head? = some 0 ∧ (digits n).length > 1) := by
    rintro ⟨hhead, hlen⟩
    obtain rfl := eq_zero_of_head?_digits hhead
    contradiction
  have habsorb : absorb significandLimit 0 (digits n) = (n, []) := by
    rw [absorb_eq (by rw [foldl_digits]; exact h), foldl_digits]
  have hmark : rest.head?.any isExponentMark = false := by
    cases hr : rest.head? with
    | none => rfl
    | some s => exact (hrest s hr).2.2
  refine bind_eq_ok.2 ⟨(digits n, rest), someDigits_digits n hdigit, ?_⟩
  simp only [if_neg hzero, habsorb]
  split
  · exact absurd rfl (hrest _ rfl).2.1
  · simp [hmark]

/-- Whether an integer is one of 64 bits, with or without a sign. -/
def Fits (i : Int) : Prop := -0x8000000000000000 ≤ i ∧ i ≤ significandLimit

instance (i : Int) : Decidable (Fits i) :=
  inferInstanceAs (Decidable (-0x8000000000000000 ≤ i ∧ i ≤ significandLimit))

theorem exists_printInt (i : Int) :
    ∃ c cs, printInt i = c :: cs ∧ (c = '-' ∨ c.isDigit = true) := by
  cases i with
  | ofNat n =>
    obtain ⟨c, cs, hcs⟩ := List.exists_cons_of_ne_nil (Nat.toDigits_ne_nil (n := n) (b := 10))
    have hc : c.isDigit = true :=
      Nat.isDigit_of_mem_toDigits (b := 10) (n := n) (by decide) (by decide) (by simp [hcs])
    exact ⟨c, cs, hcs, .inr hc⟩
  | negSucc n => exact ⟨'-', _, rfl, .inl rfl⟩

theorem read_printInt {i : Int} (h : Fits i) {rest : List Symbol} (hrest : Closed rest) :
    read ((printInt i).map .scalar ++ rest) = .ok (.int i, rest) := by
  obtain ⟨hlo, hhi⟩ := h
  cases i with
  | ofNat n =>
    have hn : n ≤ significandLimit := Int.ofNat_le.1 hhi
    have hread := unsigned_digits false hn hrest
    obtain ⟨c, cs, hcs⟩ := List.exists_cons_of_ne_nil (Nat.toDigits_ne_nil (n := n) (b := 10))
    have hc : c.isDigit = true :=
      Nat.isDigit_of_mem_toDigits (b := 10) (n := n) (by decide) (by decide) (by simp [hcs])
    simp only [printInt, read]
    rw [hcs] at hread ⊢
    split
    · rename_i heq
      obtain ⟨hsign, -⟩ := List.cons.inj heq
      obtain rfl := Symbol.scalar.inj hsign
      contradiction
    · exact hread
  | negSucc n =>
    have hn : n + 1 ≤ 0x8000000000000000 := by omega
    have hread := unsigned_digits true (Nat.le_trans hn (by decide)) hrest
    have hint : ofInteger true (n + 1) = .int (.negSucc n) := by
      unfold ofInteger
      rw [if_neg (by simp), if_neg (by omega)]
      rfl
    rw [hint] at hread
    exact hread

end Number

end LiveTelemetry.Json
