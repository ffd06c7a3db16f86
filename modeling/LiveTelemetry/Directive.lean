import LiveTelemetry.Http.Header
import LiveTelemetry.Text.Numeral
import LiveTelemetry.Text.Utf8
import LiveTelemetry.Url.Parser
/-!
What the service asks of the agent: whether to send, where to, and how long to wait. A directive
travels in the headers of every answer; headers that cannot be read stand for an idle one.
-/
namespace LiveTelemetry

inductive Status where
  | active
  | idle
  deriving DecidableEq

def Status.text : Status → String
  | active => "active"
  | idle => "idle"

/-- Another endpoint to use, for a time if one is given. -/
structure Redirect where
  endpoint : String
  validFor : Option Nat
  deriving DecidableEq

structure Directive where
  status : Status
  redirect : Option Redirect
  hint : Option Nat
  deriving DecidableEq

namespace Directive

/-- Nothing is wanted. -/
def idle : Directive := ⟨.idle, none, none⟩

def isActive (d : Directive) : Bool := d.status == .active

/-- The headers that make up a directive. -/
inductive Field where
  | subscribed
  | redirect
  | window
  | hint
  deriving DecidableEq

def Field.header : Field → String
  | subscribed => "x-live-metrics-subscribed"
  | redirect => "x-live-metrics-endpoint-redirect"
  | window => "x-live-metrics-redirect-ttl-ms"
  | hint => "x-live-metrics-polling-interval-hint-ms"

/-- Why headers hold no directive. -/
inductive Fault where
  | missing (field : Field)
  | invalid (field : Field) (value : String)
  deriving DecidableEq

def Fault.message : Fault → String
  | missing f => "missing header " ++ f.header
  | invalid f v => "invalid value '" ++ v ++ "' for header " ++ f.header

open Http (Headers)

/-- The text of a field without blanks at its ends. -/
def field (hs : Headers) (f : Field) : Except Fault (Option String) :=
  match hs.get? f.header with
  | none => .ok none
  | some value =>
    match Headers.asText? value with
    | some text => .ok (some (Text.trim text))
    | none => .error (.invalid f (Text.Utf8.lossy value))

/-- A field that holds a number of milliseconds. -/
def millis (hs : Headers) (f : Field) : Except Fault (Option Nat) := do
  match ← field hs f with
  | none => .ok none
  | some text =>
    match Text.Numeral.read? text with
    | some n => .ok (some n)
    | none => .error (.invalid f text)

def readStatus (hs : Headers) : Except Fault Status := do
  match ← field hs .subscribed with
  | none => .error (.missing .subscribed)
  | some text =>
    if Text.sameLetters text "true" then .ok .active
    else if Text.sameLetters text "false" then .ok .idle
    else .error (.invalid .subscribed text)

/-- Whether a text is the URL of a service: absolute, and of a scheme that can be asked. -/
def isEndpoint (text : String) : Bool := (Url.parse? text).any Url.isHttp

/-- The endpoint of a redirect keeps its text but for the slashes at its end. -/
def readRedirect (hs : Headers) : Except Fault (Option Redirect) := do
  match ← field hs .redirect with
  | none => .ok none
  | some text =>
    if isEndpoint text then
      let window ← millis hs .window
      .ok (some ⟨Text.trimSlashes text, window⟩)
    else .error (.invalid .redirect text)

/-- The directive in the headers of an answer. A hint of zero is none. -/
def read (hs : Headers) : Except Fault Directive := do
  let status ← readStatus hs
  let redirect ← readRedirect hs
  let hint ← millis hs .hint
  .ok ⟨status, redirect, hint.filter (· ≠ 0)⟩

end Directive

end LiveTelemetry
