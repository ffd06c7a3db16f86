import LiveTelemetry.Text.Blank
import LiveTelemetry.Text.Fields
import LiveTelemetry.Text.Numeral
import LiveTelemetry.Text.Utf8
/-!
What an operator may set, and how the settings are read from the environment. Times are in
milliseconds.
-/
namespace LiveTelemetry

/-- How long to wait after an idle ping, after a post, and after a failure. -/
structure Intervals where
  ping : Nat
  post : Nat
  error : Nat
  deriving DecidableEq

/-- The variables of the environment that are read. -/
inductive Variable where
  | endpoint
  | instanceName
  | pingInterval
  | postInterval
  | errorInterval
  | requestTimeout
  | bufferCapacity
  deriving DecidableEq

namespace Variable

def name : Variable → String
  | endpoint => "LIVE_METRICS_ENDPOINT"
  | instanceName => "LIVE_METRICS_INSTANCE"
  | pingInterval => "LIVE_METRICS_PING_INTERVAL_MS"
  | postInterval => "LIVE_METRICS_POST_INTERVAL_MS"
  | errorInterval => "LIVE_METRICS_ERROR_INTERVAL_MS"
  | requestTimeout => "LIVE_METRICS_REQUEST_TIMEOUT_SECS"
  | bufferCapacity => "LIVE_METRICS_BUFFER_CAPACITY"

def all : List Variable :=
  [endpoint, instanceName, pingInterval, postInterval, errorInterval, requestTimeout,
    bufferCapacity]

end Variable

/-- The bytes each variable is set to. -/
abbrev Environment := Variable → Option (List UInt8)

/-- The value under a name in a block of entries, each of which is a name, an equals sign, a value
and a zero. -/
def assigned? (name : String) (block : List UInt8) : Option (List UInt8) :=
  let key := Text.Utf8.encode (name.toList ++ ['='])
  ((Text.fields (· == 0) block).find? key.isPrefixOf).map (List.drop key.length)

/-- The environment that a block of entries tells. -/
def Environment.ofBlock (block : List UInt8) : Environment := fun v => assigned? v.name block

/-- The text of a variable; one that is no text counts as unset. -/
def Environment.text? (env : Environment) (v : Variable) : Option String :=
  (env v).bind Text.Utf8.text?

namespace Settings

/-- What the agent's settings can be refused for. -/
inductive Problem where
  | zeroInterval (name : String)
  | notHttpUrl (endpoint : String)
  | emptyInstance
  | notANumber (var : Variable) (text : String)
  | belowMinimum (var : Variable) (n least : Nat)
  | aboveMaximum (var : Variable) (n most : Nat)
  deriving DecidableEq

/-- A complaint about the settings, and the variable it is about. -/
def complaint (var : Option String) (detail : String) : String :=
  match var with
  | some v => "Configuration error for " ++ v ++ ": " ++ detail
  | none => "Configuration error: " ++ detail

namespace Problem

def subject : Problem → Option Variable
  | zeroInterval _ => none
  | notHttpUrl _ => some .endpoint
  | emptyInstance => some .instanceName
  | notANumber v _ => some v
  | belowMinimum v _ _ => some v
  | aboveMaximum v _ _ => some v

def detail : Problem → String
  | zeroInterval name => name ++ " must be greater than 0"
  | notHttpUrl endpoint => "'" ++ endpoint ++ "' is not an http(s) URL"
  | emptyInstance => "instance name must not be empty"
  | notANumber _ text => "'" ++ text ++ "' is not a valid number"
  | belowMinimum _ n least => toString n ++ " is below minimum (" ++ toString least ++ ")"
  | aboveMaximum _ n most => toString n ++ " exceeds maximum (" ++ toString most ++ ")"

def message (p : Problem) : String := complaint (p.subject.map Variable.name) p.detail

end Problem

end Settings

namespace Intervals

/-- Intervals are usable if none is zero. -/
def check (i : Intervals) : Except Settings.Problem Unit :=
  if i.ping = 0 then .error (.zeroInterval "ping interval")
  else if i.post = 0 then .error (.zeroInterval "post interval")
  else if i.error = 0 then .error (.zeroInterval "error interval")
  else .ok ()

def standard : Intervals := ⟨5000, 1000, 40000⟩

end Intervals

structure Settings where
  endpoint : String
  instanceName : String
  intervals : Intervals
  requestTimeout : Nat
  bufferCapacity : Nat
  deriving DecidableEq

namespace Settings

def standardInstance : String := "live-metrics-agent"

def standard : Settings where
  endpoint := "http://localhost:8000"
  instanceName := standardInstance
  intervals := Intervals.standard
  requestTimeout := 5000
  bufferCapacity := 10000

/-- The endpoint without blanks at its ends and without slashes at the end of what remains. -/
def normalEndpoint (s : String) : String := Text.trimSlashes (Text.trim s)

def isHttpUrl (s : String) : Bool :=
  "http://".toList.isPrefixOf s.toList || "https://".toList.isPrefixOf s.toList

def readEndpoint (env : Environment) : Except Problem String :=
  let endpoint := normalEndpoint ((env.text? .endpoint).getD standard.endpoint)
  if isHttpUrl endpoint then .ok endpoint else .error (.notHttpUrl endpoint)

def readInstance (env : Environment) : Except Problem String :=
  let name := ((env.text? .instanceName).map Text.trim).getD standardInstance
  if name.isEmpty then .error .emptyInstance else .ok name

/-- A number between 1 and `most`. -/
def readNumber (env : Environment) (v : Variable) (default most : Nat) : Except Problem Nat :=
  match env.text? v with
  | none => .ok default
  | some text =>
    match Text.Numeral.read? (Text.trim text) with
    | none => .error (.notANumber v text)
    | some n =>
      if n < 1 then .error (.belowMinimum v n 1)
      else if most < n then .error (.aboveMaximum v n most)
      else .ok n

/-- Longest interval, longest timeout in seconds, and largest capacity that may be set. -/
def maxInterval : Nat := 600000

def maxTimeoutSeconds : Nat := 300

def maxCapacity : Nat := 100000

/-- The settings in an environment, or the first problem with them. -/
def read (env : Environment) : Except Problem Settings := do
  let endpoint ← readEndpoint env
  let name ← readInstance env
  let ping ← readNumber env .pingInterval standard.intervals.ping maxInterval
  let post ← readNumber env .postInterval standard.intervals.post maxInterval
  let error ← readNumber env .errorInterval standard.intervals.error maxInterval
  let seconds ← readNumber env .requestTimeout 5 maxTimeoutSeconds
  let capacity ← readNumber env .bufferCapacity standard.bufferCapacity maxCapacity
  return { endpoint := endpoint, instanceName := name, intervals := ⟨ping, post, error⟩
           requestTimeout := seconds * 1000, bufferCapacity := capacity }

end Settings

end LiveTelemetry
