import LiveTelemetry.Text.Blank
import LiveTelemetry.Url.Parser
/-!
References: texts that name a place as seen from another one.
-/
namespace LiveTelemetry.Url

/-- The text of a URL up to the end of its authority. -/
def printOrigin (u : Url) : List Char := u.scheme ++ ':' :: u.printAuthority

/-- A path up to its last slash. -/
def folder (path : List Char) : List Char := Text.dropTrailing (· ≠ '/') path

/-- The place that a reference names as seen from `base` if it has no scheme of its own. Two slashes
begin a host, one a path from the root. -/
def resolveFrom? (base : Url) (s : List Char) : Option Url :=
  let slash := isSlash (isSpecial base.scheme)
  let slashes := (s.takeWhile slash).length
  match s with
  | [] => some { base with fragment := none }
  | '?' :: _ => ofChars? (base.printOrigin ++ base.path.print ++ s)
  | '#' :: _ => ofChars? (base.printOrigin ++ base.path.print ++ base.printQuery ++ s)
  | '/' :: '/' :: rest => readAuthority base.scheme rest
  | _ =>
    if 2 ≤ slashes then readAuthority base.scheme (s.drop slashes)
    else if slashes = 1 then ofChars? (base.printOrigin ++ s)
    else ofChars? (base.printOrigin ++ folder base.path.print ++ s)

/-- The place that `reference` names as seen from `base`. If it begins with the scheme of a `base`
that requests are sent to, and no host follows, it is read as if it had no scheme. -/
def resolve? (base : Url) (reference : String) : Option Url :=
  let s := strip reference.toList
  match scheme? s with
  | some (scheme, rest) =>
    if scheme = base.scheme ∧ base.isHttp ∧ (rest.takeWhile (isSlash true)).length < 2 then
      base.resolveFrom? rest
    else ofChars? s
  | none => base.resolveFrom? s

end LiveTelemetry.Url
