import LiveTelemetry.Url.Ipv6
/-!
URLs and their normal text.
-/
namespace LiveTelemetry

namespace Url

inductive Host where
  | name (s : List Char)
  | ipv4 (address : Nat)
  | ipv6 (pieces : List Nat)

def Host.print : Host → List Char
  | name s => s
  | ipv4 a => Ipv4.print a
  | ipv6 ps => '[' :: Ipv6.print ps ++ [']']

/-- A path is one text that has no parts, or a list of segments. -/
inductive Path where
  | whole (s : List Char)
  | segments (ss : List (List Char))

def Path.print : Path → List Char
  | whole s => s
  | segments ss => ss.flatMap ('/' :: ·)

end Url

/-- A URL in its parts, each encoded as it is written. An empty password is none. -/
structure Url where
  scheme : List Char
  username : List Char
  password : List Char
  host : Option Url.Host
  port : Option Nat
  path : Url.Path
  query : Option (List Char)
  fragment : Option (List Char)

namespace Url

/-- The port a scheme uses when none is written, for the schemes whose hosts are domains. -/
def defaultPort : List Char → Option Nat
  | ['h', 't', 't', 'p'] => some 80
  | ['w', 's'] => some 80
  | ['h', 't', 't', 'p', 's'] => some 443
  | ['w', 's', 's'] => some 443
  | ['f', 't', 'p'] => some 21
  | _ => none

def isFile (scheme : List Char) : Bool := scheme == ['f', 'i', 'l', 'e']

/-- Schemes whose URLs have a host, slashes of either kind and a path that is never empty. -/
def isSpecial (scheme : List Char) : Bool := (defaultPort scheme).isSome || isFile scheme

def isHttp (u : Url) : Bool :=
  u.scheme == ['h', 't', 't', 'p'] || u.scheme == ['h', 't', 't', 'p', 's']

def isSecure (u : Url) : Bool := u.scheme == ['h', 't', 't', 'p', 's']

def printUserinfo (u : Url) : List Char :=
  if u.username.isEmpty && u.password.isEmpty then []
  else u.username ++ (if u.password.isEmpty then [] else ':' :: u.password) ++ ['@']

/-- The host with what stands around it up to the path. A path without a host must not begin like
one. -/
def printAuthority (u : Url) : List Char :=
  match u.host with
  | some h =>
    '/' :: '/' :: u.printUserinfo ++ h.print ++
      match u.port with
      | some p => ':' :: Nat.toDigits 10 p
      | none => []
  | none =>
    match u.path with
    | .segments ([] :: _ :: _) => ['/', '.']
    | _ => []

def printQuery (u : Url) : List Char :=
  match u.query with
  | some q => '?' :: q
  | none => []

def printFragment (u : Url) : List Char :=
  match u.fragment with
  | some f => '#' :: f
  | none => []

def print (u : Url) : List Char :=
  u.scheme ++ ':' :: u.printAuthority ++ u.path.print ++ u.printQuery ++ u.printFragment

def text (u : Url) : String := String.ofList u.print

end Url

end LiveTelemetry
