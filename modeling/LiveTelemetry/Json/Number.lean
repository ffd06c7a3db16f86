import LiveTelemetry.Decimal.Layout
import LiveTelemetry.Json.Reader
/-!
Numbers of a JSON text. A number without point and exponent that fits 64 bits is an integer;
any other is a floating-point number: the leading digits that fit 64 bits, times a power of ten.
-/
namespace LiveTelemetry.Json

open Text (Symbol)

/-- Numbers are positional while the first digit stands between 10⁻⁵ and 10¹⁵. -/
def realLayout : Decimal.Layout := ⟨-5, 15⟩

def realText (f : Float) : String := realLayout.text f

inductive Number where
  | int (i : Int)
  | real (f : Float)

namespace Number

def found : Number → Found
  | int i => .int i
  | real f => .real (realText f)

def toJson : Number → Json
  | int i => .int i
  | real f => .real f

def toFloat : Number → Float
  | int i => Float.ofInt i
  | real f => f

/-- Largest leading part of a number that is kept exactly. -/
def significandLimit : Nat := UInt64.size - 1

/-- Largest exponent that is not taken for an infinite one. -/
def exponentLimit : Nat := 0x7FFFFFFF

def digit? : Symbol → Option Nat
  | .scalar c => if '0' ≤ c ∧ c ≤ '9' then some (c.toNat - '0'.toNat) else none
  | .broken _ => none

/-- The digits in front, and what follows them. -/
def takeDigits : List Symbol → List Nat × List Symbol
  | [] => ([], [])
  | s :: rest =>
    match digit? s with
    | none => ([], s :: rest)
    | some d => let (ds, after) := takeDigits rest; (d :: ds, after)

theorem takeDigits_length (s : List Symbol) :
    (takeDigits s).1.length + (takeDigits s).2.length = s.length := by
  induction s with
  | nil => rfl
  | cons a s ih =>
    simp only [takeDigits]
    split
    · simp
    · simp only [List.length_cons]; omega

/-- Appends digits to `n` while it stays within the limit; yields the digits left over. -/
def absorb (limit n : Nat) : List Nat → Nat × List Nat
  | [] => (n, [])
  | d :: ds => if n * 10 + d ≤ limit then absorb limit (n * 10 + d) ds else (n, d :: ds)

/-- `10 ^ n` as the nearest floating-point number, for `n` up to 308. -/
def tens (n : Nat) : Float := Float.ofScientific 1 false n

/-- `f · 10 ^ (-n)`, in steps that stay within the range of the powers of ten. -/
def scaleDown (f : Float) (n : Nat) : Float :=
  if n ≤ 308 then f / tens n
  else if f == 0.0 then f
  else scaleDown (f / tens 308) (n - 308)
termination_by n
decreasing_by omega

/-- `significand · 10 ^ exponent`, with the sign given. -/
def assemble (negative : Bool) (significand : Nat) (exponent : Int) : Except Fault Float :=
  let f := Float.ofNat significand
  let magnitude : Except Fault Float :=
    if exponent < 0 then .ok (scaleDown f exponent.natAbs)
    else if exponent ≤ 308 then
      let g := f * tens exponent.toNat
      if g.isInf then .error .numberOutOfRange else .ok g
    else if f == 0.0 then .ok f
    else .error .numberOutOfRange
  magnitude.map fun g => if negative then -g else g

/-- At least one digit. -/
def someDigits (s : List Symbol) : Except Fault (List Nat × List Symbol) :=
  match takeDigits s with
  | ([], rest) => .error (if rest.isEmpty then .endOfValue else .invalidNumber)
  | (d :: ds, rest) => .ok (d :: ds, rest)

def skipSign : List Symbol → Bool × List Symbol
  | .scalar '+' :: rest => (false, rest)
  | .scalar '-' :: rest => (true, rest)
  | s => (false, s)

def isExponentMark : Symbol → Bool
  | .scalar c => c == 'e' || c == 'E'
  | .broken _ => false

/-- The part after the exponent mark: a sign and at least one digit. -/
def exponent (negative : Bool) (significand : Nat) (start : Int) (s : List Symbol) :
    Except Fault (Float × List Symbol) := do
  let down := (skipSign s).1
  let (ds, rest) ← someDigits (skipSign s).2
  match absorb exponentLimit 0 ds with
  | (_, _ :: _) =>
    if significand ≠ 0 ∧ ¬ down then .error .numberOutOfRange
    else .ok (if negative then -0.0 else 0.0, rest)
  | (e, []) =>
    let f ← assemble negative significand (if down then start - e else start + e)
    .ok (f, rest)

/-- Finishes a number after the last digit before its exponent, if it has one. -/
def finish (negative : Bool) (significand : Nat) (start : Int) (s : List Symbol) :
    Except Fault (Float × List Symbol) := do
  match s with
  | m :: rest =>
    if isExponentMark m then exponent negative significand start rest
    else
      let f ← assemble negative significand start
      .ok (f, m :: rest)
  | [] =>
    let f ← assemble negative significand start
    .ok (f, [])

/-- An integer of one or two 64-bit ranges; zero keeps its sign only as a floating-point number. -/
def ofInteger (negative : Bool) (n : Nat) : Number :=
  if ¬ negative then .int n
  else if n = 0 ∨ 0x8000000000000000 < n then .real (-(Float.ofNat n))
  else .int (-n)

/-- A number whose sign has been taken. -/
def unsigned (negative : Bool) (s : List Symbol) : Except Fault (Number × List Symbol) := do
  let (ds, rest) ← someDigits s
  if ds.head? = some 0 ∧ ds.length > 1 then .error .invalidNumber
  else
    let (significand, excess) := absorb significandLimit 0 ds
    match rest with
    | .scalar '.' :: after =>
      let (fs, rest) ← someDigits after
      let (whole, lost) := absorb significandLimit significand fs
      let (f, rest) ← finish negative whole (excess.length - (fs.length - lost.length : Nat)) rest
      .ok (.real f, rest)
    | rest =>
      if excess.isEmpty && !(rest.head?.any isExponentMark) then
        .ok (ofInteger negative significand, rest)
      else
        let (f, rest) ← finish negative significand excess.length rest
        .ok (.real f, rest)

/-- A number, from its sign or first digit on. -/
def read (s : List Symbol) : Except Fault (Number × List Symbol) :=
  match s with
  | .scalar '-' :: rest => unsigned true rest
  | _ => unsigned false s

/-- Passes over at least one digit. -/
def skipDigits (s : List Symbol) : Except Fault (List Symbol) :=
  match takeDigits s with
  | ([], _) => .error .invalidNumber
  | (_ :: _, rest) => .ok rest

def skipExponent (s : List Symbol) : Except Fault (List Symbol) :=
  match s with
  | m :: rest => if isExponentMark m then skipDigits (skipSign rest).2 else .ok (m :: rest)
  | [] => .ok []

/-- Passes over a number whose sign has been taken. -/
def skip (s : List Symbol) : Except Fault (List Symbol) :=
  match takeDigits s with
  | ([], _) => .error .invalidNumber
  | (0 :: _ :: _, _) => .error .invalidNumber
  | (_, .scalar '.' :: rest) => do skipExponent (← skipDigits rest)
  | (_, rest) => skipExponent rest

theorem takeDigits_length_lt {s r : List Symbol} {d : Nat} {ds : List Nat}
    (h : takeDigits s = (d :: ds, r)) : r.length < s.length := by
  have := takeDigits_length s
  simp only [h, List.length_cons] at this
  omega

theorem someDigits_length {s r : List Symbol} {ds : List Nat} (h : someDigits s = .ok (ds, r)) :
    r.length < s.length := by
  unfold someDigits at h
  split at h
  · cases h
  · rename_i hd
    cases h
    exact takeDigits_length_lt hd

theorem skipSign_length (s : List Symbol) : (skipSign s).2.length ≤ s.length := by
  unfold skipSign
  split <;> simp

theorem exponent_length {negative : Bool} {significand : Nat} {start : Int} {s r : List Symbol}
    {f : Float} (h : exponent negative significand start s = .ok (f, r)) :
    r.length < s.length := by
  unfold exponent at h
  obtain ⟨⟨ds, t⟩, hd, h⟩ := bind_eq_ok.1 h
  have h1 := someDigits_length hd
  have h2 := skipSign_length s
  dsimp only at h
  split at h
  · split at h
    · cases h
    · cases h; omega
  · obtain ⟨g, -, h⟩ := bind_eq_ok.1 h
    cases h; omega

theorem finish_length {negative : Bool} {significand : Nat} {start : Int} {s r : List Symbol}
    {f : Float} (h : finish negative significand start s = .ok (f, r)) :
    r.length ≤ s.length := by
  unfold finish at h
  split at h
  · split at h
    · have := exponent_length h; simp only [List.length_cons]; omega
    · obtain ⟨g, -, h⟩ := bind_eq_ok.1 h
      cases h; exact Nat.le_refl _
  · obtain ⟨g, -, h⟩ := bind_eq_ok.1 h
    cases h; exact Nat.le_refl _

theorem unsigned_length {negative : Bool} {s r : List Symbol} {n : Number}
    (h : unsigned negative s = .ok (n, r)) : r.length < s.length := by
  unfold unsigned at h
  obtain ⟨⟨ds, t⟩, hd, h⟩ := bind_eq_ok.1 h
  have h1 := someDigits_length hd
  dsimp only at h
  split at h
  · cases h
  · split at h
    · obtain ⟨⟨fs, u⟩, hf, h⟩ := bind_eq_ok.1 h
      have h2 := someDigits_length hf
      dsimp only at h
      obtain ⟨⟨f, v⟩, hv, h⟩ := bind_eq_ok.1 h
      have h3 := finish_length hv
      dsimp only at h
      cases h
      simp only [List.length_cons] at h1
      omega
    · split at h
      · cases h; exact h1
      · obtain ⟨⟨f, v⟩, hv, h⟩ := bind_eq_ok.1 h
        have h3 := finish_length hv
        dsimp only at h
        cases h
        omega

theorem read_length {s r : List Symbol} {n : Number} (h : read s = .ok (n, r)) :
    r.length < s.length := by
  unfold read at h
  split at h
  · have := unsigned_length h; simp only [List.length_cons]; omega
  · exact unsigned_length h

theorem skipDigits_length {s r : List Symbol} (h : skipDigits s = .ok r) :
    r.length < s.length := by
  unfold skipDigits at h
  split at h
  · cases h
  · rename_i hd
    cases h; exact takeDigits_length_lt hd

theorem skipExponent_length {s r : List Symbol} (h : skipExponent s = .ok r) :
    r.length ≤ s.length := by
  unfold skipExponent at h
  split at h
  · split at h
    · rename_i rest _
      have := skipDigits_length h
      have := skipSign_length rest
      simp only [List.length_cons]; omega
    · cases h; exact Nat.le_refl _
  · cases h; exact Nat.le_refl _

theorem skip_length {s r : List Symbol} (h : skip s = .ok r) : r.length < s.length := by
  have hl := takeDigits_length s
  unfold skip at h
  split at h
  · cases h
  · cases h
  · rename_i ds rest hne _ hd
    obtain ⟨t, ht, h⟩ := bind_eq_ok.1 h
    have := skipDigits_length ht
    have := skipExponent_length h
    simp only [hd, List.length_cons] at hl
    omega
  · rename_i ds rest hne _ _ hd
    have := skipExponent_length h
    simp only [hd] at hl
    cases ds with
    | nil => exact (hne rfl).elim
    | cons d ds => simp only [List.length_cons] at hl; omega

end Number

end LiveTelemetry.Json
