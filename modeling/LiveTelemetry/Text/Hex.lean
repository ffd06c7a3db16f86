/-!
Hexadecimal digits. Main statement: reading a written digit gives it back.
-/
namespace LiveTelemetry.Text

/-- The last hexadecimal digit of a number. -/
def nibble (n : Nat) : Fin 16 := ⟨n % 16, Nat.mod_lt n (by decide)⟩

/-- The value of a hexadecimal digit, in either case. -/
def hexValue? (c : Char) : Option (Fin 16) :=
  if '0' ≤ c ∧ c ≤ '9' then some (nibble (c.toNat - '0'.toNat))
  else if 'a' ≤ c ∧ c ≤ 'f' then some (nibble (c.toNat - 'a'.toNat + 10))
  else if 'A' ≤ c ∧ c ≤ 'F' then some (nibble (c.toNat - 'A'.toNat + 10))
  else none

/-- The digit for a value, in lower case. -/
def hexDigit (d : Fin 16) : Char :=
  if d.val < 10 then Char.ofNat ('0'.toNat + d.val) else Char.ofNat ('a'.toNat + (d.val - 10))

@[simp] theorem hexValue?_hexDigit (d : Fin 16) : hexValue? (hexDigit d) = some d := by
  revert d; decide

/-- The upper-case digits of a byte. -/
def hexByte (b : UInt8) : List Char :=
  [(hexDigit (nibble (b.toNat / 16))).toUpper, (hexDigit (nibble b.toNat)).toUpper]

/-- The value in hexadecimal without leading zeros, in lower case. -/
def hexNat (n : Nat) : List Char := Nat.toDigits 16 n

end LiveTelemetry.Text
