import LiveTelemetry.Http.Header
import LiveTelemetry.Http.Status
import LiveTelemetry.Url.Parser
/-!
Requests, and the links that carry them.
-/
namespace LiveTelemetry.Http

inductive Method where
  | get
  | post
  deriving DecidableEq

def Method.text : Method → String
  | get => "GET"
  | post => "POST"

/-- A request; a body is JSON text. -/
structure Request where
  method : Method
  url : Url
  body : Option (List Char)

def Request.contentType (r : Request) : Option String := r.body.map fun _ => "application/json"

/-- What a request is answered; `whole` is false if the connection ended before the body did. -/
structure Answer where
  status : Status
  headers : Headers
  body : List UInt8
  whole : Bool

/-- What becomes of a request. -/
inductive Delivery where
  | answered (a : Answer)
  /-- There is no connection, or it ends without an answer. -/
  | lost
  /-- No answer ever comes. -/
  | silent

/-- What becomes of a request, how long that takes, and how things stand behind the link then. -/
structure Passage (σ : Type) where
  delivery : Delivery
  latency : Nat
  beyond : σ

/-- Carries requests to services; what is beyond it has a state of type `σ`. -/
structure Link (σ : Type) where
  carry : Request → σ → Passage σ

/-- A link over which nothing arrives. -/
def Link.down : Link σ where
  carry _ s := ⟨.lost, 0, s⟩

/-- Why there is no answer to a request. -/
inductive Failure where
  /-- The request cannot be made; its URL, if there is one. -/
  | unusable (url : Option Url)
  | undelivered (url : Url)
  /-- The answers lead on and on. -/
  | endless (url : Url)
  | late

def Failure.message : Failure → String
  | unusable none => "builder error"
  | unusable (some u) => "builder error for url (" ++ u.text ++ ")"
  | undelivered u => "error sending request for url (" ++ u.text ++ ")"
  | endless u => "error following redirect for url (" ++ u.text ++ ")"
  | late => "operation timed out"

end LiveTelemetry.Http

namespace LiveTelemetry.Url

/-- Whether percent-encoded text spells characters. -/
def isReadable (s : List Char) : Bool := (Text.Utf8.text? (percentDecode s)).isSome

/-- The URL without user and password. They are kept if the user's name cannot be read, or if there
is none and the password cannot be read. -/
def withoutUser (u : Url) : Url :=
  if isReadable u.username ∧ (¬ u.username.isEmpty ∨ isReadable u.password) then
    { u with username := [], password := [] }
  else u

/-- Characters of an address that a request may name. -/
def isAddressChar (c : Char) : Bool :=
  (c.toNat < 0x80 && c.isAlphanum) || "!$&'()*+,-.:;=[]_~".toList.contains c

/-- Longest URL of a request. -/
def maxLength : Nat := 65534

/-- Whether a request can be sent to the URL. -/
def isReachable (u : Url) : Bool :=
  u.isHttp && (u.host.any fun h => h.print.all isAddressChar) && u.print.length ≤ maxLength

/-- The URL to send a request to, for one written in `text`. -/
def ofTarget (text : String) : Except Http.Failure Url :=
  match parse? text with
  | none => .error (.unusable none)
  | some u =>
    let u := u.withoutUser
    if u.isReachable then .ok u else .error (.unusable (some u))

end LiveTelemetry.Url
