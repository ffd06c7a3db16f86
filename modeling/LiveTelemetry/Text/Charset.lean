import LiveTelemetry.Text.Blank
import LiveTelemetry.Text.Fields
import LiveTelemetry.Text.Utf8
/-!
Encodings of text that an answer may be written in.
-/
namespace LiveTelemetry.Text

/-- Which byte of a pair comes first. -/
inductive ByteOrder where
  | little
  | big
  deriving DecidableEq

inductive Charset where
  | utf8
  | utf16 (order : ByteOrder)
  /-- One byte for each character, western letters. -/
  | western
  deriving DecidableEq

namespace Charset

/-- The characters for bytes 0x80 to 0x9F; all other bytes stand for the character of their
number. -/
def westernSigns : List Nat :=
  [0x20AC, 0x81, 0x201A, 0x192, 0x201E, 0x2026, 0x2020, 0x2021, 0x2C6, 0x2030, 0x160, 0x2039,
    0x152, 0x8D, 0x17D, 0x8F, 0x90, 0x2018, 0x2019, 0x201C, 0x201D, 0x2022, 0x2013, 0x2014,
    0x2DC, 0x2122, 0x161, 0x203A, 0x153, 0x9D, 0x17E, 0x178]

def westernChar (b : UInt8) : Char :=
  if 0x80 ≤ b ∧ b < 0xA0 then Char.ofNat (westernSigns.getD (b.toNat - 0x80) 0)
  else Char.ofNat b.toNat

def pair (order : ByteOrder) (a b : UInt8) : Nat :=
  match order with
  | .little => b.toNat * 256 + a.toNat
  | .big => a.toNat * 256 + b.toNat

/-- Pairs of bytes as numbers; a byte left over is none. -/
def units (order : ByteOrder) : List UInt8 → List (Option Nat)
  | a :: b :: rest => some (pair order a b) :: units order rest
  | [_] => [none]
  | [] => []

def isHigh (n : Nat) : Bool := 0xD800 ≤ n && n < 0xDC00

def isLow (n : Nat) : Bool := 0xDC00 ≤ n && n < 0xE000

/-- The characters that units spell; `high` is the first half of a character under way. A half
without its other half shows as the replacement character. -/
def joinUnits : Option Nat → List (Option Nat) → List Char
  | none, [] => []
  | some _, [] => ['\uFFFD']
  | high, none :: rest => high.toList.map (fun _ => '\uFFFD') ++ '\uFFFD' :: joinUnits none rest
  | none, some n :: rest =>
    if isHigh n then joinUnits (some n) rest
    else if isLow n then '\uFFFD' :: joinUnits none rest
    else Char.ofNat n :: joinUnits none rest
  | some h, some n :: rest =>
    if isLow n then
      Char.ofNat (0x10000 + (h - 0xD800) * 0x400 + (n - 0xDC00)) :: joinUnits none rest
    else if isHigh n then '\uFFFD' :: joinUnits (some n) rest
    else '\uFFFD' :: Char.ofNat n :: joinUnits none rest

/-- The text of `bytes`; what cannot be read shows as replacement characters. -/
def decode (c : Charset) (bytes : List UInt8) : String :=
  match c with
  | utf8 => Utf8.lossy bytes
  | utf16 order => String.ofList (joinUnits none (units order bytes))
  | western => String.ofList (bytes.map westernChar)

/-- The charset that a mark at the front of a text names, and the text after the mark. -/
def ofMark? : List UInt8 → Option (Charset × List UInt8)
  | 0xEF :: 0xBB :: 0xBF :: rest => some (utf8, rest)
  | 0xFF :: 0xFE :: rest => some (utf16 .little, rest)
  | 0xFE :: 0xFF :: rest => some (utf16 .big, rest)
  | _ => none

def westernLabels : List String :=
  ["ansi_x3.4-1968", "ascii", "cp1252", "cp819", "csisolatin1", "ibm819", "iso-8859-1",
    "iso-ir-100", "iso8859-1", "iso88591", "iso_8859-1", "iso_8859-1:1987", "l1", "latin1",
    "us-ascii", "windows-1252", "x-cp1252"]

def littleLabels : List String :=
  ["csunicode", "iso-10646-ucs-2", "ucs-2", "unicode", "unicodefeff", "utf-16", "utf-16le"]

def bigLabels : List String := ["unicodefffe", "utf-16be"]

/-- The charset of a label; a label that is not known stands for UTF-8. -/
def ofLabel (label : String) : Charset :=
  let label := lowerAscii (trim label)
  if westernLabels.contains label then western
  else if littleLabels.contains label then utf16 .little
  else if bigLabels.contains label then utf16 .big
  else utf8

/-- The text of `bytes`: a mark at their front overrules the label. -/
def read (label : Option String) (bytes : List UInt8) : String :=
  match ofMark? bytes with
  | some (c, rest) => c.decode rest
  | none => (ofLabel (label.getD "utf-8")).decode bytes

end Charset

end LiveTelemetry.Text
