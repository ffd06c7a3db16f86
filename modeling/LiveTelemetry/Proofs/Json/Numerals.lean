import LiveTelemetry.Proofs.Json.Spelling
/-!
How numbers of a JSON text may be written. Main statements: what is written so is what readers take,
whatever follows it, if the number does not go on in that.
-/
namespace LiveTelemetry.Json

open Text (Symbol)

namespace Number

/-- Text that digits in front of it do not go on with. -/
def Stopped (r : List Symbol) : Prop := ∀ s ∈ r.head?, digit? s = none

theorem stopped_of_closed {r : List Symbol} (h : Closed r) : Stopped r := fun s hs => (h s hs).1

structure Digits (t : List Symbol) : Prop where
  some : t ≠ []
  all : ∀ s ∈ t, (digit? s).isSome

/-- The digits in front of a point or exponent: a zero stands in front of no other. -/
structure Whole (t : List Symbol) : Prop extends Digits t where
  least : t.length = 1 ∨ t.head? ≠ .some (.scalar '0')

inductive Fraction : List Symbol → Prop
  | none : Fraction []
  | some {t : List Symbol} (digits : Digits t) : Fraction (.scalar '.' :: t)

inductive Sign : List Symbol → Prop
  | none : Sign []
  | plus : Sign [.scalar '+']
  | minus : Sign [.scalar '-']

inductive Exponent : List Symbol → Prop
  | none : Exponent []
  | some {m : Symbol} {g t : List Symbol} (mark : isExponentMark m = true) (sign : Sign g)
      (digits : Digits t) : Exponent (m :: (g ++ t))

/-- How a number without a sign is written. -/
inductive Unsigned : List Symbol → Prop
  | mk {w f e : List Symbol} (whole : Whole w) (fraction : Fraction f) (exponent : Exponent e) :
      Unsigned (w ++ f ++ e)

/-- How a number is written. -/
inductive Written : List Symbol → Prop
  | plain {t : List Symbol} (h : Unsigned t) : Written t
  | negative {t : List Symbol} (h : Unsigned t) : Written (.scalar '-' :: t)

theorem takeDigits_of_stopped {r : List Symbol} (h : Stopped r) : takeDigits r = ([], r) := by
  cases r with
  | nil => rfl
  | cons s r =>
    have hs : digit? s = none := h s rfl
    simp only [takeDigits, hs]

theorem takeDigits_eq_iff {s r : List Symbol} {ds : List Nat} :
    takeDigits s = (ds, r) ↔ ∃ t, (∀ x ∈ t, (digit? x).isSome) ∧ Stopped r ∧ s = t ++ r ∧
      ds = t.filterMap digit? := by
  constructor
  · intro h
    induction s generalizing ds with
    | nil =>
      obtain ⟨rfl, rfl⟩ := Prod.mk.inj h
      exact ⟨[], by simp, by simp [Stopped], rfl, rfl⟩
    | cons x s ih =>
      cases hx : digit? x with
      | none =>
        simp only [takeDigits, hx] at h
        obtain ⟨rfl, rfl⟩ := Prod.mk.inj h
        exact ⟨[], by simp, by simp [Stopped, hx], rfl, rfl⟩
      | some d =>
        simp only [takeDigits, hx] at h
        obtain ⟨rfl, hr⟩ := Prod.mk.inj h
        obtain ⟨t, ht, hstop, hs, hds⟩ := ih (Prod.ext rfl hr)
        refine ⟨x :: t, ?_, hstop, by rw [hs, List.cons_append], by simp [hx, hds]⟩
        exact List.forall_mem_cons.2 ⟨by simp [hx], ht⟩
  · rintro ⟨t, ht, hstop, rfl, rfl⟩
    induction t with
    | nil => exact takeDigits_of_stopped hstop
    | cons x t ih =>
      obtain ⟨hx, ht⟩ := List.forall_mem_cons.1 ht
      obtain ⟨d, hd⟩ := Option.isSome_iff_exists.1 hx
      simp only [List.cons_append, takeDigits, hd, ih ht, List.filterMap_cons]

theorem filterMap_digit?_ne_nil {t : List Symbol} (h : Digits t) : t.filterMap digit? ≠ [] := by
  obtain ⟨x, t, rfl⟩ := List.exists_cons_of_ne_nil h.some
  obtain ⟨d, hd⟩ := Option.isSome_iff_exists.1 (h.all x (by simp))
  simp [hd]

theorem length_filterMap_digit? {t : List Symbol} (h : ∀ x ∈ t, (digit? x).isSome) :
    (t.filterMap digit?).length = t.length := by
  induction t with
  | nil => rfl
  | cons x t ih =>
    obtain ⟨hx, ht⟩ := List.forall_mem_cons.1 h
    obtain ⟨d, hd⟩ := Option.isSome_iff_exists.1 hx
    simp [hd, ih ht]

theorem someDigits_eq_ok_iff {s r : List Symbol} {ds : List Nat} :
    someDigits s = .ok (ds, r) ↔ ∃ t, Digits t ∧ Stopped r ∧ s = t ++ r ∧
      ds = t.filterMap digit? := by
  rw [someDigits]
  constructor
  · intro h
    split at h
    · contradiction
    · rename_i d ds' rest hd
      obtain ⟨rfl, rfl⟩ := Prod.mk.inj (Except.ok.inj h)
      obtain ⟨t, ht, hstop, hs, hds⟩ := takeDigits_eq_iff.1 hd
      refine ⟨t, ⟨?_, ht⟩, hstop, hs, hds⟩
      rintro rfl
      contradiction
  · rintro ⟨t, ht, hstop, hs, hds⟩
    have htake := takeDigits_eq_iff.2 ⟨t, ht.all, hstop, hs, hds⟩
    obtain ⟨d, ds', hcons⟩ := List.exists_cons_of_ne_nil (filterMap_digit?_ne_nil ht)
    rw [htake, hds, hcons]

theorem skipDigits_eq_ok_iff {s r : List Symbol} :
    skipDigits s = .ok r ↔ ∃ t, Digits t ∧ Stopped r ∧ s = t ++ r := by
  have hsame : skipDigits s = .ok r ↔ ∃ ds, someDigits s = .ok (ds, r) := by
    rw [skipDigits, someDigits]
    split <;> simp
  rw [hsame]
  simp only [someDigits_eq_ok_iff]
  constructor
  · rintro ⟨ds, t, ht, hstop, hs, -⟩
    exact ⟨t, ht, hstop, hs⟩
  · rintro ⟨t, ht, hstop, hs⟩
    exact ⟨_, t, ht, hstop, hs, rfl⟩

theorem digit?_eq_zero_iff {s : Symbol} : digit? s = some 0 ↔ s = .scalar '0' := by
  constructor
  · intro h
    cases s with
    | broken n => contradiction
    | scalar c =>
      rw [digit?] at h
      split at h
      · rename_i hrange
        have hlow : ('0').toNat ≤ c.toNat := hrange.1
        have hle := Option.some.inj h
        have heq : c.toNat = ('0').toNat := by omega
        rw [Char.toNat_inj.1 heq]
      · contradiction
  · rintro rfl
    rfl

/-- Digits are a whole part unless there are several and the first one is zero. -/
theorem whole_iff {t : List Symbol} (h : Digits t) :
    Whole t ↔ ¬ ((t.filterMap digit?).head? = some 0 ∧ (t.filterMap digit?).length > 1) := by
  obtain ⟨x, t, rfl⟩ := List.exists_cons_of_ne_nil h.some
  obtain ⟨d, hd⟩ := Option.isSome_iff_exists.1 (h.all x (by simp))
  have hhead : ((x :: t).filterMap digit?).head? = some 0 ↔ x = .scalar '0' := by
    rw [← digit?_eq_zero_iff, List.filterMap_cons, hd]
    rfl
  rw [hhead, length_filterMap_digit? h.all]
  constructor
  · rintro ⟨-, hone | hother⟩ ⟨hzero, hmany⟩
    · omega
    · exact hother (by rw [hzero]; rfl)
  · intro hnot
    refine ⟨h, ?_⟩
    by_cases hzero : x = .scalar '0'
    · have hmany : ¬ (x :: t).length > 1 := fun hmany => hnot ⟨hzero, hmany⟩
      rw [List.length_cons] at hmany ⊢
      exact .inl (by omega)
    · exact .inr fun hx => hzero (Option.some.inj hx)

theorem digit?_of_mark {m : Symbol} (h : isExponentMark m = true) :
    digit? m = none ∧ m ≠ .scalar '.' := by
  cases m with
  | broken n => contradiction
  | scalar c =>
    have hc : c = 'e' ∨ c = 'E' := by simpa [isExponentMark] using h
    rcases hc with rfl | rfl <;> decide

/-- What stands behind the digits of a number whose exponent, if it has one, comes next. -/
theorem stopped_append {e r : List Symbol} (h : Exponent e) (hr : Closed r) :
    Stopped (e ++ r) ∧ (e ++ r).head? ≠ some (.scalar '.') := by
  cases h with
  | none => exact ⟨stopped_of_closed hr, fun hs => (hr _ hs).2.1 rfl⟩
  | some mark sign digits =>
    obtain ⟨hdigit, hpoint⟩ := digit?_of_mark mark
    refine ⟨?_, fun hs => hpoint (Option.some.inj hs)⟩
    rintro s ⟨⟩
    exact hdigit

theorem skipSign_digits {sign t : List Symbol} (h : Sign sign) (ht : Digits t) (r : List Symbol) :
    skipSign (sign ++ t ++ r) = (sign == [.scalar '-'], t ++ r) := by
  cases h with
  | none =>
    obtain ⟨x, t, rfl⟩ := List.exists_cons_of_ne_nil ht.some
    have hx := ht.all x (by simp)
    rw [List.nil_append, List.cons_append, skipSign]
    · rfl
    · rintro rest heq
      obtain ⟨rfl, -⟩ := List.cons.inj heq
      contradiction
    · rintro rest heq
      obtain ⟨rfl, -⟩ := List.cons.inj heq
      contradiction
  | plus => rfl
  | minus => rfl

theorem exists_sign (s : List Symbol) :
    ∃ sign, Sign sign ∧ s = sign ++ (skipSign s).2 ∧ (skipSign s).1 = (sign == [.scalar '-']) := by
  unfold skipSign
  split
  · exact ⟨_, .plus, rfl, rfl⟩
  · exact ⟨_, .minus, rfl, rfl⟩
  · exact ⟨_, .none, rfl, rfl⟩

/-- What the digits of an exponent make of a number. -/
def raised (negative : Bool) (significand : Nat) (start : Int) (down : Bool) (ds : List Nat) :
    Except Fault Float :=
  match absorb exponentLimit 0 ds with
  | (_, _ :: _) =>
    if significand ≠ 0 ∧ ¬ down then .error .numberOutOfRange
    else .ok (if negative then -0.0 else 0.0)
  | (e, []) => assemble negative significand (if down then start - e else start + e)

section

variable {negative : Bool} {significand : Nat} {start : Int} {f : Float} {s r : List Symbol}

theorem exponent_eq_ok_iff :
    exponent negative significand start s = .ok (f, r) ↔
      ∃ ds, someDigits (skipSign s).2 = .ok (ds, r) ∧
        raised negative significand start (skipSign s).1 ds = .ok f := by
  rw [exponent, bind_eq_ok]
  constructor
  · rintro ⟨⟨ds, rest⟩, hd, h⟩
    unfold raised
    dsimp only at h
    generalize hlost : absorb exponentLimit 0 ds = lost at h
    obtain ⟨e, _ | ⟨d, more⟩⟩ := lost
    · obtain ⟨g, hg, h⟩ := bind_eq_ok.1 h
      obtain ⟨rfl, rfl⟩ := Prod.mk.inj (Except.ok.inj h)
      exact ⟨ds, hd, by rw [hlost]; exact hg⟩
    · dsimp only at h
      split at h
      · contradiction
      · rename_i hsmall
        obtain ⟨rfl, rfl⟩ := Prod.mk.inj (Except.ok.inj h)
        exact ⟨ds, hd, by rw [hlost]; exact if_neg hsmall⟩
  · rintro ⟨ds, hd, h⟩
    refine ⟨(ds, r), hd, ?_⟩
    unfold raised at h
    dsimp only
    generalize absorb exponentLimit 0 ds = lost at h ⊢
    obtain ⟨e, _ | ⟨d, more⟩⟩ := lost
    · exact bind_eq_ok.2 ⟨f, h, rfl⟩
    · dsimp only at h ⊢
      split at h
      · contradiction
      · rename_i hsmall
        obtain rfl := Except.ok.inj h
        exact if_neg hsmall

theorem exists_of_exponent (h : exponent negative significand start s = .ok (f, r)) :
    ∃ g t, Sign g ∧ Digits t ∧ s = g ++ t ++ r ∧
      ∀ r', Closed r' → exponent negative significand start (g ++ t ++ r') = .ok (f, r') := by
  obtain ⟨g, hsign, hs, hdown⟩ := exists_sign s
  obtain ⟨ds, hd, hvalue⟩ := exponent_eq_ok_iff.1 h
  obtain ⟨t, ht, -, htext, hds⟩ := someDigits_eq_ok_iff.1 hd
  refine ⟨g, t, hsign, ht, by rw [hs, htext, List.append_assoc], ?_⟩
  intro r' hr'
  refine exponent_eq_ok_iff.2 ⟨ds, ?_, ?_⟩
  · rw [skipSign_digits hsign ht]
    exact someDigits_eq_ok_iff.2 ⟨t, ht, stopped_of_closed hr', rfl, hds⟩
  · rw [skipSign_digits hsign ht, ← hdown]
    exact hvalue

theorem finish_of_closed (h : assemble negative significand start = .ok f) (hr : Closed r) :
    finish negative significand start r = .ok (f, r) := by
  cases r with
  | nil => exact bind_eq_ok.2 ⟨f, h, rfl⟩
  | cons m r =>
    have hm : isExponentMark m = false := (hr m rfl).2.2
    simp only [finish, hm]
    exact bind_eq_ok.2 ⟨f, h, rfl⟩

theorem marked_of_closed (hr : Closed r) : r.head?.any isExponentMark = false := by
  cases hm : r.head? with
  | none => rfl
  | some m => exact (hr m hm).2.2

/-- A number ends with its exponent, or, if that is not there, without a mark for one. -/
theorem exists_of_finish (h : finish negative significand start s = .ok (f, r)) :
    ∃ e, Exponent e ∧ s = e ++ r ∧ ∀ r', Closed r' →
      finish negative significand start (e ++ r') = .ok (f, r') ∧
      (e ++ r').head?.any isExponentMark = s.head?.any isExponentMark := by
  unfold finish at h
  split at h
  · rename_i m rest
    split at h
    · rename_i hm
      obtain ⟨g, t, hsign, ht, rfl, hgoes⟩ := exists_of_exponent h
      refine ⟨m :: (g ++ t), .some hm hsign ht, by simp, ?_⟩
      intro r' hr'
      refine ⟨?_, by simp⟩
      rw [List.cons_append, finish, if_pos hm]
      exact hgoes r' hr'
    · rename_i hm
      obtain ⟨g, hg, h⟩ := bind_eq_ok.1 h
      obtain ⟨rfl, rfl⟩ := Prod.mk.inj (Except.ok.inj h)
      refine ⟨[], .none, rfl, ?_⟩
      intro r' hr'
      exact ⟨finish_of_closed hg hr', (marked_of_closed hr').trans (by simpa using hm)⟩
  · obtain ⟨g, hg, h⟩ := bind_eq_ok.1 h
    obtain ⟨rfl, rfl⟩ := Prod.mk.inj (Except.ok.inj h)
    refine ⟨[], .none, rfl, ?_⟩
    intro r' hr'
    exact ⟨finish_of_closed hg hr', marked_of_closed hr'⟩

end

section

variable {negative : Bool} {n : Number} {w r : List Symbol}

theorem someDigits_whole (h : Whole w) (hr : Stopped r) :
    someDigits (w ++ r) = .ok (w.filterMap digit?, r) :=
  someDigits_eq_ok_iff.2 ⟨w, h.toDigits, hr, rfl, rfl⟩

theorem bind_real (x : Except Fault (Float × List Symbol)) :
    (x >>= fun p => .ok (Number.real p.1, p.2)) = x.map fun (f, rest) => (.real f, rest) := by
  cases x <;> rfl

/-- A number that has no fraction is an integer if it fits and no exponent follows. -/
theorem unsigned_bare (h : Whole w) (hr : Stopped r) (bare : r.head? ≠ some (.scalar '.')) :
    unsigned negative (w ++ r) =
      let taken := absorb significandLimit 0 (w.filterMap digit?)
      if taken.2.isEmpty && !(r.head?.any isExponentMark) then
        .ok (ofInteger negative taken.1, r)
      else (finish negative taken.1 taken.2.length r).map fun (f, rest) => (.real f, rest) := by
  have hleast := (whole_iff h.toDigits).1 h
  rw [unsigned, someDigits_whole h hr]
  simp only [Bind.bind, Except.bind, if_neg hleast]
  split
  · exact absurd rfl bare
  · rw [← bind_real]
    rfl

/-- A number that has a fraction is not an integer. -/
theorem unsigned_fraction {p : List Symbol} (h : Whole w) (hp : Digits p) (hr : Stopped r) :
    unsigned negative (w ++ .scalar '.' :: (p ++ r)) =
      let taken := absorb significandLimit 0 (w.filterMap digit?)
      let all := absorb significandLimit taken.1 (p.filterMap digit?)
      let start : Int := taken.2.length - ((p.filterMap digit?).length - all.2.length : Nat)
      (finish negative all.1 start r).map fun (f, rest) => (.real f, rest) := by
  have hleast := (whole_iff h.toDigits).1 h
  have hpoint : Stopped (.scalar '.' :: (p ++ r)) := by
    rintro x ⟨⟩
    rfl
  have hdigits : someDigits (p ++ r) = .ok (p.filterMap digit?, r) :=
    someDigits_eq_ok_iff.2 ⟨p, hp, hr, rfl, rfl⟩
  rw [unsigned, someDigits_whole h hpoint]
  simp only [Bind.bind, Except.bind, if_neg hleast, hdigits]
  rw [← bind_real]
  rfl

/-- A number that is read is written as one, and is read for the same wherever it stands. -/
theorem exists_of_unsigned {s : List Symbol} (h : unsigned negative s = .ok (n, r)) :
    ∃ t, Unsigned t ∧ s = t ++ r ∧
      ∀ r', Closed r' → unsigned negative (t ++ r') = .ok (n, r') := by
  obtain ⟨⟨ds, rest⟩, hd, hrest⟩ := bind_eq_ok.1 h
  obtain ⟨w, hw, hstop, rfl, rfl⟩ := someDigits_eq_ok_iff.1 hd
  dsimp only at hrest
  split at hrest
  · contradiction
  · rename_i hleast
    have whole : Whole w := (whole_iff hw).2 hleast
    split at hrest
    · rename_i after
      obtain ⟨⟨fs, rest'⟩, hf, -⟩ := bind_eq_ok.1 hrest
      obtain ⟨p, hp, hstop', rfl, rfl⟩ := someDigits_eq_ok_iff.1 hf
      rw [unsigned_fraction whole hp hstop'] at h
      obtain ⟨⟨f, rest''⟩, hfinish, heq⟩ := map_eq_ok.1 h
      obtain ⟨rfl, rfl⟩ := Prod.mk.inj heq
      obtain ⟨e, he, rfl, hgoes⟩ := exists_of_finish hfinish
      refine ⟨_, .mk whole (.some hp) he, by simp, ?_⟩
      intro r' hr'
      have hlist : w ++ (.scalar '.' :: p) ++ e ++ r' = w ++ .scalar '.' :: (p ++ (e ++ r')) := by
        simp
      rw [hlist, unsigned_fraction whole hp (stopped_append he hr').1]
      exact map_eq_ok.2 ⟨_, (hgoes r' hr').1, rfl⟩
    · rename_i hbare
      have bare : rest.head? ≠ some (.scalar '.') := by
        intro hpoint
        obtain ⟨after, rfl⟩ := List.head?_eq_some_iff.1 hpoint
        exact hbare after rfl
      clear hrest
      rw [unsigned_bare whole hstop bare] at h
      dsimp only at h
      split at h
      · rename_i hint
        obtain ⟨rfl, rfl⟩ := Prod.mk.inj (Except.ok.inj h)
        refine ⟨_, .mk whole .none .none, by simp, ?_⟩
        intro r' hr'
        have hnone : r'.head? ≠ some (.scalar '.') := fun hs => (hr' _ hs).2.1 rfl
        rw [List.append_nil, List.append_nil, unsigned_bare whole (stopped_of_closed hr') hnone]
        have hmark := marked_of_closed hr'
        rw [Bool.and_eq_true] at hint
        simp [hint.1, hmark]
      · rename_i hreal
        obtain ⟨⟨f, rest'⟩, hfinish, heq⟩ := map_eq_ok.1 h
        obtain ⟨rfl, rfl⟩ := Prod.mk.inj heq
        obtain ⟨e, he, rfl, hgoes⟩ := exists_of_finish hfinish
        refine ⟨_, .mk whole .none he, by simp, ?_⟩
        intro r' hr'
        obtain ⟨hstopped, hnone⟩ := stopped_append he hr'
        obtain ⟨hread, hmark⟩ := hgoes r' hr'
        rw [List.append_nil, List.append_assoc, unsigned_bare whole hstopped hnone]
        dsimp only
        rw [hmark, if_neg hreal]
        exact map_eq_ok.2 ⟨_, hread, rfl⟩

theorem Unsigned.head {t : List Symbol} (h : Unsigned t) :
    ∃ x u, t = x :: u ∧ (digit? x).isSome := by
  cases h with
  | @mk w f e whole fraction exponent =>
    obtain ⟨x, u, rfl⟩ := List.exists_cons_of_ne_nil whole.some
    exact ⟨x, u ++ f ++ e, by simp, whole.all x (by simp)⟩

theorem read_unsigned {t : List Symbol} (h : Unsigned t) (r : List Symbol) :
    read (t ++ r) = unsigned false (t ++ r) := by
  obtain ⟨x, u, rfl, hx⟩ := h.head
  rw [List.cons_append, read]
  rintro rest heq
  obtain ⟨rfl, -⟩ := List.cons.inj heq
  contradiction

/-- A number that is read is written as one, and is read for the same wherever it stands. -/
theorem exists_of_read {s : List Symbol} (h : read s = .ok (n, r)) :
    ∃ t, Written t ∧ s = t ++ r ∧ ∀ r', Closed r' → read (t ++ r') = .ok (n, r') := by
  unfold read at h
  split at h
  · obtain ⟨t, ht, rfl, hgoes⟩ := exists_of_unsigned h
    exact ⟨_, .negative ht, rfl, hgoes⟩
  · rename_i hplain
    obtain ⟨t, ht, rfl, hgoes⟩ := exists_of_unsigned h
    refine ⟨t, .plain ht, rfl, ?_⟩
    intro r' hr'
    rw [read_unsigned ht]
    exact hgoes r' hr'

end

section

variable {s r : List Symbol}

theorem exists_of_skipExponent (h : skipExponent s = .ok r) : ∃ e, Exponent e ∧ s = e ++ r := by
  unfold skipExponent at h
  split at h
  · rename_i m rest
    split at h
    · rename_i hm
      obtain ⟨t, ht, -, hs⟩ := skipDigits_eq_ok_iff.1 h
      obtain ⟨g, hsign, hrest, -⟩ := exists_sign rest
      refine ⟨_, .some hm hsign ht, ?_⟩
      rw [hrest, hs]
      simp
    · obtain rfl := Except.ok.inj h
      exact ⟨[], .none, rfl⟩
  · obtain rfl := Except.ok.inj h
    exact ⟨[], .none, rfl⟩

theorem skipExponent_append {e : List Symbol} (h : Exponent e) (hr : Closed r) :
    skipExponent (e ++ r) = .ok r := by
  cases h with
  | none =>
    cases r with
    | nil => rfl
    | cons m r =>
      have hm : isExponentMark m = false := (hr m rfl).2.2
      simp [skipExponent, hm]
  | @some m g t mark sign digits =>
    rw [List.cons_append, skipExponent, if_pos mark, skipSign_digits sign digits]
    exact skipDigits_eq_ok_iff.2 ⟨t, digits, stopped_of_closed hr, rfl⟩

/-- Behind the digits in front, a point decides what else is passed over. -/
theorem skip_whole {w : List Symbol} (h : Whole w) (hs : Stopped s) :
    skip (w ++ s) =
      match s with
      | .scalar '.' :: rest => do skipExponent (← skipDigits rest)
      | rest => skipExponent rest := by
  have htake := takeDigits_eq_iff.2 ⟨w, h.all, hs, rfl, rfl⟩
  have hleast := (whole_iff h.toDigits).1 h
  have hsome := filterMap_digit?_ne_nil h.toDigits
  rw [skip, htake]
  split
  · rename_i heq
    exact absurd (Prod.mk.inj heq).1 hsome
  · rename_i heq
    rw [(Prod.mk.inj heq).1] at hleast
    exact absurd ⟨rfl, by simp⟩ hleast
  · rename_i heq
    obtain ⟨-, rfl⟩ := Prod.mk.inj heq
    rfl
  · rename_i hbare heq
    obtain ⟨-, rfl⟩ := Prod.mk.inj heq
    split
    · exact (hbare _ rfl).elim
    · rfl

theorem exists_of_skip (h : skip s = .ok r) : ∃ t, Unsigned t ∧ s = t ++ r := by
  obtain ⟨w, u, whole, hstop, rfl⟩ : ∃ w u, Whole w ∧ Stopped u ∧ s = w ++ u := by
    obtain ⟨w, hw, hstop, hs, hds⟩ := takeDigits_eq_iff.1 (Prod.eta (takeDigits s)).symm
    have hsome : w ≠ [] := by
      rintro rfl
      rw [skip, ← Prod.eta (takeDigits s), hds] at h
      contradiction
    refine ⟨w, _, (whole_iff ⟨hsome, hw⟩).2 ?_, hstop, hs⟩
    rintro ⟨hzero, hmany⟩
    obtain ⟨ds, hcons⟩ := List.head?_eq_some_iff.1 hzero
    obtain ⟨d, ds, rfl⟩ : ∃ d ds', ds = d :: ds' := by
      cases ds with
      | nil => simp [hcons] at hmany
      | cons d ds => exact ⟨d, ds, rfl⟩
    rw [skip, ← Prod.eta (takeDigits s), hds, hcons] at h
    contradiction
  rw [skip_whole whole hstop] at h
  split at h
  · obtain ⟨rest, hrest, hskip⟩ := bind_eq_ok.1 h
    obtain ⟨p, hp, -, rfl⟩ := skipDigits_eq_ok_iff.1 hrest
    obtain ⟨e, he, rfl⟩ := exists_of_skipExponent hskip
    exact ⟨_, .mk whole (.some hp) he, by simp⟩
  · obtain ⟨e, he, rfl⟩ := exists_of_skipExponent h
    exact ⟨_, .mk whole .none he, by simp⟩

theorem skip_append {t : List Symbol} (h : Unsigned t) (hr : Closed r) :
    skip (t ++ r) = .ok r := by
  cases h with
  | @mk w f e whole fraction exponent =>
    obtain ⟨hstop, hbare⟩ := stopped_append exponent hr
    rw [List.append_assoc, List.append_assoc]
    cases fraction with
    | none =>
      rw [List.nil_append, skip_whole whole hstop]
      split
      · rename_i rest heq _
        rw [heq] at hbare
        exact absurd rfl hbare
      · exact skipExponent_append exponent hr
    | @some p digits =>
      have hpoint : Stopped (.scalar '.' :: (p ++ (e ++ r))) := by
        rintro x ⟨⟩
        rfl
      rw [List.cons_append, skip_whole whole hpoint]
      exact bind_eq_ok.2 ⟨_, skipDigits_eq_ok_iff.2 ⟨p, digits, hstop, rfl⟩,
        skipExponent_append exponent hr⟩

end

end Number

end LiveTelemetry.Json
