import LiveTelemetry.Text.Hex
import LiveTelemetry.Text.Utf8
/-!
Percent-encoding: a byte that a part of a URL cannot hold is written as `%` and two digits.
-/
namespace LiveTelemetry.Url

open Text (hexValue? hexByte)

/-- Parts of a URL, by the characters they encode. -/
inductive Part where
  | verbatim
  | fragment
  | query
  | specialQuery
  | path
  | userinfo
  deriving DecidableEq

/-- Whether an ASCII character is encoded in a part. Characters beyond ASCII always are. -/
def Part.encodes (p : Part) (c : Char) : Bool :=
  let n := c.toNat
  n < 0x20 || n == 0x7F ||
  match p with
  | .verbatim => false
  | .fragment => " \"<>\x60".toList.contains c
  | .query => " \"#<>".toList.contains c
  | .specialQuery => " \"#<>'".toList.contains c
  | .path => " \"<>\x60#?\x7b\x7d^".toList.contains c
  | .userinfo => " \"<>\x60#?\x7b\x7d^/:;=@[\\]|".toList.contains c

def percent (b : UInt8) : List Char := '%' :: hexByte b

/-- A character as it stands in a part of a URL. -/
def Part.encodeChar (p : Part) (c : Char) : List Char :=
  if c.toNat < 0x80 ∧ ¬ p.encodes c then [c]
  else (String.utf8EncodeChar c).flatMap percent

def Part.encode (p : Part) (s : List Char) : List Char := s.flatMap p.encodeChar

/-- The two digits at the front, as a byte. -/
def hexPair? : List Char → Option UInt8
  | a :: b :: _ =>
    match hexValue? a, hexValue? b with
    | some a, some b => some (UInt8.ofNat (a.val * 16 + b.val))
    | _, _ => none
  | _ => none

/-- The bytes of a text whose percent signs are resolved where two digits follow. The first
`pending` characters belong to a sign already resolved. -/
def decodeFrom : Nat → List Char → List UInt8
  | _, [] => []
  | pending + 1, _ :: rest => decodeFrom pending rest
  | 0, c :: rest =>
    if c = '%' then
      match hexPair? rest with
      | some b => b :: decodeFrom 2 rest
      | none => String.utf8EncodeChar c ++ decodeFrom 0 rest
    else String.utf8EncodeChar c ++ decodeFrom 0 rest

def percentDecode (s : List Char) : List UInt8 := decodeFrom 0 s

end LiveTelemetry.Url
