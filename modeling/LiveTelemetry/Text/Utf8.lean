/-!
UTF-8 read one byte at a time. Bytes that form no character are kept as gaps, one for each
maximal start of a character, so a reader can both show the text and know where it was damaged.
-/
namespace LiveTelemetry.Text

/-- One step of decoded text: a character, or a run of bytes that is no part of one. -/
inductive Symbol where
  | scalar (c : Char)
  | broken (size : Nat)
  deriving DecidableEq

namespace Symbol

/-- Bytes the symbol was read from. -/
def size : Symbol → Nat
  | scalar c => c.utf8Size
  | broken n => n

def char? : Symbol → Option Char
  | scalar c => some c
  | broken _ => none

/-- The character shown for the symbol; a gap shows as the replacement character. -/
def shown : Symbol → Char
  | scalar c => c
  | broken _ => '\uFFFD'

end Symbol

namespace Utf8

/-- A character of which `taken` bytes were read: `needed` more follow, the next of them
between `low` and `high`. -/
structure Unfinished where
  value : Nat
  taken : Nat
  needed : Nat
  low : Nat
  high : Nat

/-- What a first byte begins. -/
def lead (b : Nat) : Symbol ⊕ Unfinished :=
  if b < 0x80 then .inl (.scalar (Char.ofNat b))
  else if b < 0xC2 then .inl (.broken 1)
  else if b < 0xE0 then .inr ⟨b - 0xC0, 1, 1, 0x80, 0xBF⟩
  else if b < 0xF0 then
    .inr ⟨b - 0xE0, 1, 2, if b = 0xE0 then 0xA0 else 0x80, if b = 0xED then 0x9F else 0xBF⟩
  else if b < 0xF5 then
    .inr ⟨b - 0xF0, 1, 3, if b = 0xF0 then 0x90 else 0x80, if b = 0xF4 then 0x8F else 0xBF⟩
  else .inl (.broken 1)

/-- Adds a following byte. -/
def Unfinished.push (p : Unfinished) (b : Nat) : Symbol ⊕ Unfinished :=
  let value := p.value * 64 + (b - 0x80)
  if p.needed ≤ 1 then .inl (.scalar (Char.ofNat value))
  else .inr ⟨value, p.taken + 1, p.needed - 1, 0x80, 0xBF⟩

def decodeFrom : Option Unfinished → List UInt8 → List Symbol
  | none, [] => []
  | some p, [] => [.broken p.taken]
  | none, b :: rest =>
    match lead b.toNat with
    | .inl s => s :: decodeFrom none rest
    | .inr p => decodeFrom (some p) rest
  | some p, b :: rest =>
    if p.low ≤ b.toNat ∧ b.toNat ≤ p.high then
      match p.push b.toNat with
      | .inl s => s :: decodeFrom none rest
      | .inr q => decodeFrom (some q) rest
    else
      .broken p.taken ::
        match lead b.toNat with
        | .inl s => s :: decodeFrom none rest
        | .inr q => decodeFrom (some q) rest

/-- The symbols that `bytes` spell. -/
def decode (bytes : List UInt8) : List Symbol := decodeFrom none bytes

/-- The text of `bytes`, if they are sound throughout. -/
def text? (bytes : List UInt8) : Option String :=
  ((decode bytes).mapM Symbol.char?).map String.ofList

/-- The text of `bytes` with a replacement character for each gap. -/
def lossy (bytes : List UInt8) : String := String.ofList ((decode bytes).map Symbol.shown)

/-- The bytes that spell `text`. -/
def encode (text : List Char) : List UInt8 := text.flatMap String.utf8EncodeChar

end Utf8

/-- Sound text as symbols. -/
def symbols (text : String) : List Symbol := text.toList.map .scalar

end LiveTelemetry.Text
