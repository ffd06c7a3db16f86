import Mathlib.Algebra.Group.Nat.Defs
import LiveTelemetry.Proofs.Text.Ends
import LiveTelemetry.Text.Numeral
import LiveTelemetry.Time.Rfc3339
/-!
Written moments. Main statement: reading a written moment gives it back, to the nanosecond.
-/
namespace LiveTelemetry.Instant

open Text (isBlank isBlank_of_isDigit)

/-- Blanks are passed over only where there are some. -/
theorem skipBlanks_cons {c : Char} (h : isBlank c = false) (s : List Char) :
    skipBlanks (c :: s) = c :: s := by
  simp [skipBlanks, h]

theorem isDigit_of_mem_padded {width n : Nat} {c : Char} (h : c ∈ padded width n) :
    c.isDigit = true := by
  rcases List.mem_append.1 h with h | h
  · rw [List.eq_of_mem_replicate h]
    decide
  · exact Nat.isDigit_of_mem_toDigits (by decide) (by decide) h

theorem length_padded {width n : Nat} (hw : 0 < width) (h : n < 10 ^ width) :
    (padded width n).length = width := by
  have hlen : (Nat.toDigits 10 n).length ≤ width :=
    (Nat.length_toDigits_le_iff (by decide) hw).2 h
  simp [padded, hlen]

theorem number_replicate_append (k : Nat) (ds : List Char) :
    number (List.replicate k '0' ++ ds) = number ds := by
  induction k with
  | zero => rfl
  | succ k ih => simpa [number, List.replicate_succ] using ih

theorem number_padded (width n : Nat) : number (padded width n) = n := by
  unfold padded
  rw [number_replicate_append]
  exact Text.Numeral.value_toDigits n

/-- Digits are taken as far as they go, or as far as they may. -/
theorem takeDigits_append {most : Nat} {ds rest : List Char} (hd : ∀ c ∈ ds, c.isDigit = true)
    (hl : ds.length ≤ most)
    (hstop : ds.length = most ∨ ∀ c ∈ rest.head?, c.isDigit = false) :
    takeDigits most (ds ++ rest) = (ds, rest) := by
  induction ds generalizing most with
  | nil =>
    cases most with
    | zero => cases rest <;> rfl
    | succ most =>
      cases rest with
      | nil => rfl
      | cons c rest =>
        have hc : c.isDigit = false := by simpa using hstop
        simp [takeDigits, hc]
  | cons d ds ih =>
    obtain ⟨hdigit, hds⟩ := List.forall_mem_cons.1 hd
    cases most with
    | zero => simp at hl
    | succ most =>
      have hstop' : ds.length = most ∨ ∀ c ∈ rest.head?, c.isDigit = false := by
        simpa using hstop
      simp [takeDigits, hdigit, ih hds (by simpa using hl) hstop']

theorem exists_padded (width n : Nat) : ∃ c cs, padded width n = c :: cs ∧ c.isDigit = true := by
  have hne : padded width n ≠ [] := by simp [padded, Nat.toDigits_ne_nil]
  obtain ⟨c, cs, hcs⟩ := List.exists_cons_of_ne_nil hne
  exact ⟨c, cs, hcs, isDigit_of_mem_padded (by rw [hcs]; exact List.mem_cons_self)⟩

theorem skipBlanks_padded (width n : Nat) (rest : List Char) :
    skipBlanks (padded width n ++ rest) = padded width n ++ rest := by
  obtain ⟨c, cs, hcs, hc⟩ := exists_padded width n
  rw [hcs]
  exact skipBlanks_cons (isBlank_of_isDigit hc) _

theorem readNumber?_padded {width n : Nat} (hw : 0 < width) (h : n < 10 ^ width)
    (rest : List Char) : readNumber? width (padded width n ++ rest) = some (n, rest) := by
  have hlen := length_padded hw h
  have htake : takeDigits width (padded width n ++ rest) = (padded width n, rest) :=
    takeDigits_append (fun c hc => isDigit_of_mem_padded hc) (Nat.le_of_eq hlen) (.inl hlen)
  obtain ⟨c, cs, hcs, -⟩ := exists_padded width n
  have hnum := number_padded width n
  rw [hcs] at htake hnum
  unfold readNumber?
  rw [skipBlanks_padded, hcs, htake]
  simp only [hnum]

theorem takeDigits_padded_hyphen (n : Nat) (rest : List Char) :
    takeDigits (padded 4 n ++ '-' :: rest).length (padded 4 n ++ '-' :: rest) =
      (padded 4 n, '-' :: rest) :=
  takeDigits_append (fun c hc => isDigit_of_mem_padded hc) (by simp) (.inr (by simp))

theorem readYear?_minus (n : Nat) (rest : List Char) :
    readYear? ('-' :: (padded 4 n ++ '-' :: rest)) = some (-(n : Int), '-' :: rest) := by
  have htake := takeDigits_padded_hyphen n rest
  have hnum := number_padded 4 n
  obtain ⟨c, cs, hcs, -⟩ := exists_padded 4 n
  rw [hcs] at htake hnum ⊢
  unfold readYear?
  rw [skipBlanks_cons (by decide)]
  simp only [htake, hnum]

theorem readYear?_plus (n : Nat) (rest : List Char) :
    readYear? ('+' :: (padded 4 n ++ '-' :: rest)) = some ((n : Int), '-' :: rest) := by
  have htake := takeDigits_padded_hyphen n rest
  have hnum := number_padded 4 n
  obtain ⟨c, cs, hcs, -⟩ := exists_padded 4 n
  rw [hcs] at htake hnum ⊢
  unfold readYear?
  rw [skipBlanks_cons (by decide)]
  simp only [htake, hnum]

theorem readYear?_bare {n : Nat} (h : n < 10 ^ 4) (rest : List Char) :
    readYear? (padded 4 n ++ '-' :: rest) = some ((n : Int), '-' :: rest) := by
  have hread := readNumber?_padded (by decide) h ('-' :: rest)
  unfold readNumber? at hread
  unfold readYear?
  rw [skipBlanks_padded] at hread ⊢
  obtain ⟨c, cs, hcs, hc⟩ := exists_padded 4 n
  rw [hcs, List.cons_append] at hread ⊢
  split
  · rename_i heq
    obtain ⟨rfl, -⟩ := List.cons.inj heq
    contradiction
  · rename_i heq
    obtain ⟨rfl, -⟩ := List.cons.inj heq
    contradiction
  · split at hread
    · contradiction
    · rename_i ds rest' hds htake
      obtain ⟨rfl, rfl⟩ := Prod.mk.inj (Option.some.inj hread)
      rfl

theorem readYear?_printYear (year : Int) (rest : List Char) :
    readYear? (printYear year ++ '-' :: rest) = some (year, '-' :: rest) := by
  unfold printYear
  split
  · rename_i hyear
    rw [readYear?_bare (by omega), Int.toNat_of_nonneg hyear.1]
  · by_cases hneg : year < 0
    · rw [if_pos hneg, List.cons_append, readYear?_minus, Int.ofNat_natAbs_of_nonpos (by omega),
        Int.neg_neg]
    · rw [if_neg hneg, List.cons_append, readYear?_plus, Int.natAbs_of_nonneg (by omega)]

theorem expect?_cons {c : Char} (h : isBlank c = false) (s : List Char) :
    expect? c (c :: s) = some s := by
  simp [expect?, skipBlanks_cons h]

/-- Digits of a fraction are read for what they stand for in nanoseconds. -/
theorem readFraction?_padded {width n : Nat} (hw : 0 < width) (hle : width ≤ 9)
    (h : n < 10 ^ width) (rest : List Char) (hrest : ∀ c ∈ rest.head?, c.isDigit = false) :
    readFraction? ('.' :: (padded width n ++ rest)) = some (n * 10 ^ (9 - width), rest) := by
  have hlen := length_padded hw h
  have hnum := number_padded width n
  have htake : takeDigits 9 (padded width n ++ rest) = (padded width n, rest) :=
    takeDigits_append (fun c hc => isDigit_of_mem_padded hc) (by omega) (.inr hrest)
  have hdrop : rest.dropWhile Char.isDigit = rest := by
    cases rest with
    | nil => rfl
    | cons c rest => exact List.dropWhile_cons_of_neg (by simpa using hrest c rfl)
  obtain ⟨c, cs, hcs, -⟩ := exists_padded width n
  rw [hcs] at htake hnum hlen ⊢
  unfold readFraction?
  simp only [htake, hnum, hlen, hdrop]
  rfl

theorem readFraction?_printFraction {nanos : Nat} (h : nanos < 1000000000) (rest : List Char) :
    readFraction? (printFraction nanos ++ 'Z' :: rest) = some (nanos, 'Z' :: rest) := by
  have hstop : ∀ c ∈ ('Z' :: rest).head?, c.isDigit = false := by simp
  unfold printFraction
  split
  · rename_i hzero
    rw [hzero]
    rfl
  · split
    · rw [List.cons_append, readFraction?_padded (by decide) (by decide) (by omega) _ hstop,
        show nanos / 1000000 * 10 ^ (9 - 3) = nanos by omega]
    · split
      · rw [List.cons_append, readFraction?_padded (by decide) (by decide) (by omega) _ hstop,
          show nanos / 1000 * 10 ^ (9 - 6) = nanos by omega]
      · rw [List.cons_append, readFraction?_padded (by decide) (by decide) (by omega) _ hstop,
          Nat.sub_self, Nat.pow_zero, Nat.mul_one]

theorem readDate?_printed (d : Date) (rest : List Char) :
    readDate? (printYear d.year ++ '-' :: (padded 2 d.month ++ '-' :: (padded 2 d.day ++ rest))) =
      some (d, rest) := by
  have hmonth : d.month < 10 ^ 2 := by
    have := d.month_range
    omega
  have hday : d.day < 10 ^ 2 := by
    have hle := d.day_range.2
    unfold Date.daysInMonth at hle
    split at hle <;> split at hle <;> omega
  have hyphen : isBlank '-' = false := by decide
  simp only [readDate?, Option.bind_eq_bind, Option.bind_some, readYear?_printYear,
    expect?_cons hyphen, readNumber?_padded (by decide) hmonth,
    readNumber?_padded (by decide) hday, Date.of?_self]

/-- Reading a written moment gives it back. -/
theorem read?_print (i : Instant) : read? i.print = some i := by
  have hhour : i.hour < 10 ^ 2 := Nat.lt_trans i.hour_lt (by decide)
  have hminute : i.minute < 10 ^ 2 := Nat.lt_trans i.minute_lt (by decide)
  have hsecond : i.second < 10 ^ 2 := Nat.lt_of_le_of_lt i.second_le (by decide)
  have hcolon : isBlank ':' = false := by decide
  have hzulu : skipBlanks ['Z'] = ['Z'] := skipBlanks_cons (by decide) []
  have hoffset : readOffset? ['Z'] = some (0, []) := by decide
  simp only [read?, print, printWith, List.append_assoc, List.cons_append, readDate?_printed,
    readSeparator?, Option.bind_eq_bind, Option.bind_some, expect?_cons hcolon,
    readNumber?_padded (by decide) hhour, readNumber?_padded (by decide) hminute,
    readNumber?_padded (by decide) hsecond, readFraction?_printFraction i.nanos_lt, hzulu, hoffset,
    of?_self, minusMinutes?_zero]
  rfl

end LiveTelemetry.Instant
