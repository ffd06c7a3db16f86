import LiveTelemetry.Url.Basic
import LiveTelemetry.Url.Domain
import LiveTelemetry.Url.Percent
/-!
Reading a URL: the scheme, then the authority up to the first slash, question mark or hash, then
path, query and fragment.
-/
namespace LiveTelemetry.Url

open Text (fields cut cutLast)

/-- Text without controls and spaces at its ends, and without tabs and line ends anywhere. -/
def strip (s : List Char) : List Char :=
  let edge (c : Char) : Bool := c.toNat ≤ 0x20
  ((s.dropWhile edge).reverse.dropWhile edge).reverse.filter
    fun c => ¬ (c = '\t' ∨ c = '\n' ∨ c = '\r')

def isSchemeChar (c : Char) : Bool := c.isAlphanum || c == '+' || c == '-' || c == '.'

/-- The scheme in lower case, and what follows its colon. -/
def scheme? (s : List Char) : Option (List Char × List Char) :=
  match cut (· == ':') s with
  | (c :: cs, some rest) =>
    if c.isAlpha ∧ cs.all isSchemeChar then some ((c :: cs).map Char.toLower, rest) else none
  | _ => none

def isSlash (special : Bool) (c : Char) : Bool := c == '/' || (special && c == '\\')

/-- Where an authority ends. -/
def endsAuthority (special : Bool) (c : Char) : Bool :=
  isSlash special c || c == '?' || c == '#'

/-- Names of the two segments that stand for the place itself and the place above it. -/
def isHere (s : List Char) : Bool :=
  ["." , "%2e"].any fun t => t.toList == s.map Char.toLower

def isAbove (s : List Char) : Bool :=
  ["..", ".%2e", "%2e.", "%2e%2e"].any fun t => t.toList == s.map Char.toLower

/-- A drive: a letter and a mark. -/
def isDrive (s : List Char) : Bool :=
  match s with
  | [c, m] => c.isAlpha && (m == ':' || m == '|')
  | _ => false

/-- Whether a segment is a drive, or goes on with a backslash after one. -/
def startsWithDrive (s : List Char) : Bool :=
  isDrive (s.take 2) && (s.drop 2).head?.all (· == '\\')

def normalDrive (s : List Char) : List Char :=
  match s with
  | [c, _] => [c, ':']
  | s => s

/-- The path without its last segment, which stays if it is a drive; `done` is kept latest first. -/
def shorten (done : List (List Char)) : List (List Char) :=
  match done with
  | [] => []
  | d :: rest => if startsWithDrive d then d :: rest else rest

/-- Segments with those that name places resolved; a path that ends in one ends in a slash. The
path of a file may begin with a drive. -/
def resolve (file : Bool) (done : List (List Char)) : List (List Char) → List (List Char)
  | [] => done.reverse
  | s :: rest =>
    let last := rest.isEmpty
    if isAbove s then
      let done := shorten done
      resolve file (if last then [] :: done else done) rest
    else if isHere s then resolve file (if last then [] :: done else done) rest
    else
      let s := if file ∧ done.isEmpty ∧ isDrive s then normalDrive s else s
      resolve file (s :: done) rest

/-- The encoded segments of a path, the text of which follows a slash. -/
def readSegments (scheme s : List Char) : List (List Char) :=
  let pieces := (fields (isSlash (isSpecial scheme)) s).map Part.path.encode
  resolve (isFile scheme) [] pieces

/-- Query and fragment at the end of a URL, and what stands before them. -/
structure Tail where
  before : List Char
  query : Option (List Char)
  fragment : Option (List Char)

def readTail (special : Bool) (s : List Char) : Tail :=
  let (front, fragment) := cut (· == '#') s
  let (before, query) := cut (· == '?') front
  let part := if special then Part.specialQuery else Part.query
  ⟨before, query.map part.encode, fragment.map Part.fragment.encode⟩

/-- The rest of a URL whose authority is read. -/
def withPath (u : Url) (s : List Char) : Url :=
  let special := isSpecial u.scheme
  let tail := readTail special s
  let path : Path :=
    match tail.before with
    | [] => .segments (if special then [[]] else [])
    | c :: rest => .segments (readSegments u.scheme (if isSlash special c then rest else c :: rest))
  { u with path := path, query := tail.query, fragment := tail.fragment }

/-- A host as it is written, for schemes whose hosts are not domains. -/
def isForbiddenVerbatim (c : Char) : Bool :=
  "\x00\t\n\r #/:<>?@[\\]^|".toList.contains c

def readHost (special : Bool) (s : List Char) : Option Host :=
  match s with
  | '[' :: inner =>
    if inner.getLast? = some ']' then (Ipv6.parse? inner.dropLast).map .ipv6 else none
  | _ =>
    if special then do
      let decoded ← (Text.Utf8.decode (percentDecode s)).mapM Text.Symbol.char?
      let domain ← Domain.ofText? decoded
      if domain.isEmpty then none
      else if Ipv4.endsInNumber domain then (Ipv4.parse? domain).map .ipv4
      else some (.name domain)
    else if s.any isForbiddenVerbatim then none
    else some (.name (Part.verbatim.encode s))

/-- The host's text, and the port's if a colon follows it; colons between brackets are part of the
host. -/
def cutPort : Bool → List Char → List Char × Option (List Char)
  | _, [] => ([], none)
  | inside, c :: rest =>
    if c = ':' ∧ ¬ inside then ([], some rest)
    else
      let inside := if c = '[' then true else if c = ']' then false else inside
      let (host, port) := cutPort inside rest
      (c :: host, port)

/-- A port number, unless there is none or it is the scheme's own, and what follows it; a backslash
may. -/
def readPort (scheme : List Char) (s : List Char) : Option (Option Nat × List Char) :=
  let digits := s.takeWhile Char.isDigit
  let rest := s.dropWhile Char.isDigit
  if rest.head?.any (· ≠ '\\') then none
  else if digits.isEmpty then some (none, rest)
  else
    match Text.Numeral.inBase? 10 digits with
    | some n =>
      if n < 0x10000 then some (if some n = defaultPort scheme then none else some n, rest)
      else none
    | none => none

/-- What follows two slashes. There may be no host where no domain is called for, unless there is a
user or a port. -/
def readAuthority (scheme : List Char) (s : List Char) : Option Url := do
  let special := isSpecial scheme
  let authority := s.takeWhile (¬ endsAuthority special ·)
  let rest := s.dropWhile (¬ endsAuthority special ·)
  let (userinfo, address) := cutLast (· == '@') authority
  let (username, password) := cut (· == ':') (userinfo.getD [])
  let (hostText, portText) := cutPort false address
  let nobody := username.isEmpty ∧ (password.getD []).isEmpty
  if userinfo = some [] ∧ address.isEmpty ∧ ¬ rest.isEmpty then none
  else if hostText.isEmpty ∧ (special ∨ portText.isSome ∨ ¬ nobody) then none
  else
    let host ← readHost special hostText
    let (port, between) ← readPort scheme (portText.getD [])
    some <| withPath
      { scheme := scheme
        username := Part.userinfo.encode username
        password := Part.userinfo.encode (password.getD [])
        host := some host
        port := port
        path := .segments []
        query := none
        fragment := none } (between ++ rest)

/-- A URL without host, user and port. -/
def bare (scheme : List Char) (host : Option Host) (path : Path) (tail : Tail) : Url :=
  { scheme := scheme, username := [], password := [], host := host, port := none
    path := path, query := tail.query, fragment := tail.fragment }

/-- A path of a file has no empty segments in front. -/
def trimEmpty (segments : List (List Char)) : List (List Char) :=
  match segments.dropWhile List.isEmpty with
  | [] => [[]]
  | kept => kept

/-- A file on a host. A drive is on no host. -/
def fileAt (host : Host) (scheme : List Char) (path : List Char) (tail : Tail) : Url :=
  let segments := readSegments scheme path
  let host := if segments.head?.any isDrive then .name [] else host
  bare scheme (some host) (.segments (trimEmpty segments)) tail

/-- A file's URL: a host may follow two slashes, unless a drive does. The host `localhost` counts as
none; the path begins with a slash of its own where no host is written. -/
def readFile (scheme : List Char) (s : List Char) : Option Url :=
  let tail := readTail true s
  let here (path : List Char) : Option Url := some (fileAt (.name []) scheme path tail)
  match tail.before with
  | [] => here []
  | a :: s =>
    if ¬ isSlash true a then here (a :: s)
    else
      match s with
      | [] => here []
      | b :: rest =>
        if ¬ isSlash true b then here (b :: rest)
        else
          let hostText := rest.takeWhile (¬ isSlash true ·)
          let path := rest.dropWhile (¬ isSlash true ·)
          if isDrive hostText then here rest
          else if hostText.isEmpty then here path
          else do
            let host ← readHost true hostText
            if host.print = "localhost".toList then here path
            else some (fileAt host scheme path.tail tail)

/-- A URL of a scheme without rules of its own. -/
def readGeneric (scheme : List Char) (s : List Char) : Option Url :=
  match s with
  | '/' :: '/' :: rest => readAuthority scheme rest
  | '/' :: rest =>
    let tail := readTail false rest
    some (bare scheme none (.segments (readSegments scheme tail.before)) tail)
  | _ =>
    let tail := readTail false s
    some (bare scheme none (.whole (Part.verbatim.encode tail.before)) tail)

/-- The URL that stripped characters spell on their own. -/
def ofChars? (s : List Char) : Option Url := do
  let (scheme, rest) ← scheme? s
  if isFile scheme then readFile scheme rest
  else if isSpecial scheme then readAuthority scheme (rest.dropWhile (isSlash true))
  else readGeneric scheme rest

/-- The URL that a text spells on its own. -/
def parse? (s : String) : Option Url := ofChars? (strip s.toList)

end LiveTelemetry.Url
