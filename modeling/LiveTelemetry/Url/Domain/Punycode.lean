import LiveTelemetry.Text.Fields
/-!
Letters beyond ASCII written in ASCII: first the ASCII letters of a label, then, as numbers in a
mixed base, where the others go in the order of their code points.
-/
namespace LiveTelemetry.Url.Domain.Punycode

def base : Nat := 36

/-- Digits below the threshold end a number. The threshold grows along the digits, from where the
numbers so far have set it. -/
def threshold (bias place : Nat) : Nat := min 26 (max 1 (place - bias))

/-- Where thresholds start after numbers of the size of `delta`. -/
def adaptFrom (delta places : Nat) : Nat :=
  if delta ≤ 455 then places + 36 * delta / (delta + 38) else adaptFrom (delta / 35) (places + 36)
termination_by delta

def adapt (delta size : Nat) (first : Bool) : Nat :=
  let delta := if first then delta / 700 else delta / 2
  adaptFrom (delta + delta / size) 0

def digit (n : Nat) : Char :=
  if n < 26 then Char.ofNat ('a'.toNat + n) else Char.ofNat ('0'.toNat + (n - 26))

def digit? (c : Char) : Option Nat :=
  if 'a' ≤ c ∧ c ≤ 'z' then some (c.toNat - 'a'.toNat)
  else if 'A' ≤ c ∧ c ≤ 'Z' then some (c.toNat - 'A'.toNat)
  else if '0' ≤ c ∧ c ≤ '9' then some (c.toNat - '0'.toNat + 26)
  else none

theorem one_le_threshold (bias place : Nat) : 1 ≤ threshold bias place := by
  unfold threshold
  omega

/-- The digits of a number, of which `place` is the first. -/
def number (bias place n : Nat) : List Char :=
  let t := threshold bias place
  if h : n < t then [digit n]
  else
    have := one_le_threshold bias place
    have : (n - t) / (base - t) < n :=
      Nat.lt_of_le_of_lt (Nat.div_le_self _ _) (by omega)
    digit (t + (n - t) % (base - t)) :: number bias (place + base) ((n - t) / (base - t))
termination_by n

/-- A text under way: the number counted up so far, where thresholds start, and how many characters
are written. -/
structure Count where
  delta : Nat
  bias : Nat
  written : Nat

/-- Counts past a character of the label, and writes the count if it is the letter `n`. -/
def pass (first : Nat) (n : Nat) (acc : Count × List Char) (c : Char) : Count × List Char :=
  let (k, out) := acc
  if c.toNat < n then ({ k with delta := k.delta + 1 }, out)
  else if c.toNat = n then
    (⟨0, adapt k.delta (k.written + 1) (k.written = first), k.written + 1⟩,
      out ++ number k.bias base k.delta)
  else (k, out)

/-- Writes where the letters of `codes`, which ascend from `n`, go in the label `s`. -/
def encodeFrom (first : Nat) (s : List Char) : Nat → List Nat → Count → List Char
  | _, [], _ => []
  | n, m :: rest, k =>
    let k := { k with delta := k.delta + (m - n) * (k.written + 1) }
    let (k, out) := s.foldl (pass first m) (k, [])
    out ++ encodeFrom first s (m + 1) rest { k with delta := k.delta + 1 }

def isBasic (c : Char) : Bool := c.toNat < 0x80

/-- The code points of a label's letters beyond ASCII, each once, in order. -/
def codes (s : List Char) : List Nat :=
  ((s.filter (¬ isBasic ·)).map Char.toNat).mergeSort.eraseReps

def encode (s : List Char) : List Char :=
  let basic := s.filter isBasic
  let head := if basic.isEmpty then [] else basic ++ ['-']
  head ++ encodeFrom basic.length s 0x80 (codes s) ⟨0, 72, basic.length⟩

/-- A label under way: the letter to insert next is `n` or a later one, at `i` or after. -/
structure Progress where
  out : List Char
  n : Nat
  i : Nat
  bias : Nat

/-- A number under way: its value so far, what the next digit is worth, and its place. -/
structure Partial where
  value : Nat
  weight : Nat
  place : Nat

def Partial.start : Partial := ⟨0, 1, base⟩

/-- Inserts the letter that a finished number tells of. -/
def Progress.insert? (p : Progress) (delta : Nat) (first : Bool) : Option Progress :=
  let size := p.out.length + 1
  let i := p.i + delta
  let n := p.n + i / size
  if n.isValidChar then
    some ⟨p.out.take (i % size) ++ Char.ofNat n :: p.out.drop (i % size), n, i % size + 1,
      adapt delta size first⟩
  else none

/-- Reads digits to the end of a label. -/
def decodeFrom (p : Progress) (first : Bool) (k : Partial) : List Char → Option (List Char)
  | [] => if k.place = base then some p.out else none
  | c :: rest => do
    let d ← digit? c
    let t := threshold p.bias k.place
    let value := k.value + d * k.weight
    if d < t then
      let p ← p.insert? value first
      decodeFrom p false Partial.start rest
    else decodeFrom p first ⟨value, k.weight * (base - t), k.place + base⟩ rest

/-- The ASCII letters at the front of a written label, and its digits. A hyphen in front of the
digits belongs to them if no letters stand before it. -/
def split (s : List Char) : List Char × List Char :=
  match Text.cutLast (· == '-') s with
  | (some (c :: letters), digits) => (c :: letters, digits)
  | _ => ([], s)

def decode? (s : List Char) : Option (List Char) :=
  let (basic, digits) := split s
  if basic.all isBasic then decodeFrom ⟨basic, 0x80, 0, 72⟩ true Partial.start digits else none

end LiveTelemetry.Url.Domain.Punycode
