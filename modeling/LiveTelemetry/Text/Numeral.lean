import LiveTelemetry.Text.Hex
/-!
Natural numbers as people write them: digits, with a plus sign allowed in front. Main statement:
reading a written number gives it back.
-/
namespace LiveTelemetry.Text.Numeral

/-- First number that does not fit 64 bits. -/
def limit : Nat := UInt64.size

def value (digits : List Char) : Nat := digits.foldl (fun n c => n * 10 + (c.toNat - '0'.toNat)) 0

/-- The number that digits spell, if it is below the limit. -/
def ofDigits? (s : List Char) : Option Nat :=
  if ¬ s.isEmpty ∧ s.all Char.isDigit ∧ value s < limit then some (value s) else none

/-- The number that a text spells, with or without a plus sign. -/
def read? (s : String) : Option Nat :=
  match s.toList with
  | '+' :: digits => ofDigits? digits
  | digits => ofDigits? digits

def write (n : Nat) : String := String.ofList (Nat.toDigits 10 n)

/-- The number that digits spell in a base of at most sixteen; no digits spell zero. -/
def inBase? (base : Nat) (s : List Char) : Option Nat :=
  s.foldl (fun acc c => do
    let n ← acc
    let d ← hexValue? c
    if d.val < base then some (n * base + d.val) else none) (some 0)

theorem value_toDigits (n : Nat) : value (Nat.toDigits 10 n) = n := by
  have h := @Nat.ofDigitChars_ten_toDigits n
  rw [Nat.ofDigitChars_eq_foldl] at h
  simpa only [value, Nat.mul_comm 10] using h

theorem ofDigits?_toDigits {n : Nat} (h : n < limit) : ofDigits? (Nat.toDigits 10 n) = some n := by
  have hd : (Nat.toDigits 10 n).all Char.isDigit := by
    rw [List.all_eq_true]
    exact fun c hc => Nat.isDigit_of_mem_toDigits (by decide) (by decide) hc
  simp [ofDigits?, value_toDigits, hd, h]

theorem read?_write {n : Nat} (h : n < limit) : read? (write n) = some n := by
  simp only [read?, write, String.toList_ofList]
  split
  · rename_i digits hs
    have hp : '+' ∈ Nat.toDigits 10 n := by simp [hs]
    exact absurd (Nat.isDigit_of_mem_toDigits (by decide) (by decide) hp) (by decide)
  · exact ofDigits?_toDigits h

end LiveTelemetry.Text.Numeral
