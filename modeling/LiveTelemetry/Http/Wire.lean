import LiveTelemetry.Http.Request
/-!
Requests and answers as bytes, on connections that carry one of each.
-/
namespace LiveTelemetry

/-- What a request names on the server it goes to. -/
def Url.resource (u : Url) : List Char := u.path.print ++ u.printQuery

/-- The server a request goes to, as the request names it. -/
def Url.server (u : Url) : List Char :=
  (u.host.map Url.Host.print).getD [] ++
    match u.port with
    | some p => ':' :: Nat.toDigits 10 p
    | none => []

namespace Http

open Text (cut)

/-- The lines that tell of the body. -/
def Request.bodyLines (r : Request) (body : List UInt8) : List (List Char) :=
  match r.contentType with
  | some t =>
    ["content-type: ".toList ++ t.toList, "content-length: ".toList ++ Nat.toDigits 10 body.length]
  | none => []

/-- A request with its body. The connection is for this request only. -/
def Request.wire (r : Request) : List UInt8 :=
  let body := Text.Utf8.encode (r.body.getD [])
  let first := r.method.text.toList ++ ' ' :: r.url.resource ++ " HTTP/1.1".toList
  let lines := first :: r.bodyLines body ++
    ["accept: */*".toList, "host: ".toList ++ r.url.server, "connection: close".toList, []]
  Text.Utf8.encode (lines.flatMap (· ++ ['\r', '\n'])) ++ body

/-- The first line, without its end, and what follows it. -/
def line? : List UInt8 → Option (List UInt8 × List UInt8)
  | [] => none
  | b :: rest =>
    if b = 10 then some ([], rest)
    else (line? rest).map fun (l, after) => (if b = 13 ∧ l.isEmpty then [] else b :: l, after)

theorem line?_length {s l r : List UInt8} (h : line? s = some (l, r)) : r.length < s.length := by
  induction s generalizing l with
  | nil => simp [line?] at h
  | cons b s ih =>
    simp only [line?] at h
    split at h
    · cases h
      simp
    · obtain ⟨⟨m, t⟩, hm, ht⟩ := Option.map_eq_some_iff.1 h
      cases ht
      exact Nat.lt_succ_of_lt (ih hm)

def letters (s : List UInt8) : List Char := s.map fun b => Char.ofNat b.toNat

/-- The status in the first line of an answer. -/
def status? (l : List UInt8) : Option Status :=
  match letters l with
  | 'H' :: 'T' :: 'T' :: 'P' :: '/' :: '1' :: '.' :: minor :: ' ' :: a :: b :: c :: reason =>
    if (minor = '0' ∨ minor = '1') ∧ [a, b, c].all Char.isDigit ∧
        (reason.isEmpty ∨ reason.head? = some ' ') then
      Status.ofCode? (Text.Numeral.value [a, b, c])
    else none
  | _ => none

def header? (l : List UInt8) : Option Header :=
  match cut (· == 58) l with
  | (name, some value) => Header.make? name (Header.trimPadding value)
  | (_, none) => none

/-- The headers, up to the empty line that ends them, and what follows. -/
def headers? (s : List UInt8) : Option (Headers × List UInt8) :=
  match h : line? s with
  | none => none
  | some ([], rest) => some ([], rest)
  | some (b :: l, rest) =>
    have := line?_length h
    match header? (b :: l), headers? rest with
    | some first, some (more, body) => some (first :: more, body)
    | _, _ => none
termination_by s.length

/-- How far the body of an answer goes. -/
inductive Extent where
  | absent
  | sized (n : Nat)
  | chunked
  /-- As far as the connection. -/
  | open
  deriving DecidableEq

/-- A body in chunks is told by the last of its codings, any other by its size. -/
def extent? (status : Status) (hs : Headers) : Option Extent :=
  if status.code < 200 ∨ status.code = 204 ∨ status.code = 304 then some .absent
  else
    match hs.get? "transfer-encoding", hs.get? "content-length" with
    | some codings, _ =>
      let last := (Text.fields (· == ',') (letters codings)).getLast?.getD []
      if Text.sameLetters (Text.trim (String.ofList last)) "chunked" then some .chunked
      else some .open
    | none, some size =>
      if size.isEmpty then none else (Text.Numeral.ofDigits? (letters size)).map .sized
    | none, none => some .open

/-- The size of a chunk; what follows a semicolon is of no account. -/
def chunkSize? (l : List UInt8) : Option Nat :=
  let digits := (letters (cut (· == 59) (Header.trimPadding l)).1)
  if digits.isEmpty then none else Text.Numeral.inBase? 16 digits

/-- The body in chunks, and whether the empty one that ends it is there. -/
def unchunk (s : List UInt8) : List UInt8 × Bool :=
  match h : line? s with
  | none => ([], false)
  | some (l, rest) =>
    have := line?_length h
    match chunkSize? l with
    | none => ([], false)
    | some 0 => ([], true)
    | some n =>
      let (more, whole) := unchunk (rest.drop (n + 2))
      (rest.take n ++ more, whole)
termination_by s.length
decreasing_by simp only [List.length_drop]; omega

/-- The body, and whether it came whole. -/
def Extent.read (s : List UInt8) : Extent → List UInt8 × Bool
  | .absent => ([], true)
  | .sized n => (s.take n, decide (n ≤ s.length))
  | .chunked => unchunk s
  | .open => (s, true)

/-- The answer that begins the bytes, and how far its body goes. -/
def Answer.ofWire? (s : List UInt8) : Option (Answer × Extent) := do
  let (first, s) ← line? s
  let status ← status? first
  let (headers, s) ← headers? s
  let extent ← extent? status headers
  let (body, whole) := extent.read s
  some (⟨status, headers, body, whole⟩, extent)

/-- Whether the bytes hold a whole answer, wherever the connection ends. -/
def Answer.isEnded (s : List UInt8) : Bool :=
  match ofWire? s with
  | some (a, e) => a.whole && e ≠ .open
  | none => false

/-- What became of a request for which these bytes came back. -/
def Delivery.ofWire (s : List UInt8) : Delivery :=
  match Answer.ofWire? s with
  | some (a, _) => .answered a
  | none => .lost

end Http

end LiveTelemetry
