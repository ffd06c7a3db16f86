import LiveTelemetry.Text.Blank
import LiveTelemetry.Time.Instant
/-!
The written form of a moment: date, `T`, time of day with as many thirds of nine fraction digits
as it needs, and `Z`. Readers are given more room: blanks between the parts, a space or small
letters for the marks, offsets from universal time, and more digits than nine.
-/
namespace LiveTelemetry.Instant

open Text (isBlank)

/-- The number in at least `width` digits. -/
def padded (width n : Nat) : List Char :=
  let ds := Nat.toDigits 10 n
  List.replicate (width - ds.length) '0' ++ ds

/-- Years of four digits stand bare; others have a sign. -/
def printYear (year : Int) : List Char :=
  if 0 ≤ year ∧ year ≤ 9999 then padded 4 year.toNat
  else (if year < 0 then '-' else '+') :: padded 4 year.natAbs

def printFraction (nanos : Nat) : List Char :=
  if nanos = 0 then []
  else if nanos % 1000000 = 0 then '.' :: padded 3 (nanos / 1000000)
  else if nanos % 1000 = 0 then '.' :: padded 6 (nanos / 1000)
  else '.' :: padded 9 nanos

/-- The written form, with the fraction of the second given. -/
def printWith (fraction : List Char) (i : Instant) : List Char :=
  printYear i.date.year ++ '-' :: padded 2 i.date.month ++ '-' :: padded 2 i.date.day ++
    'T' :: padded 2 i.hour ++ ':' :: padded 2 i.minute ++ ':' :: padded 2 i.second ++
    fraction ++ ['Z']

def print (i : Instant) : List Char := i.printWith (printFraction i.nanos)

/-- The written form to the microsecond. -/
def printMicros (i : Instant) : List Char := i.printWith ('.' :: padded 6 (i.nanos / 1000))

/-- Up to `most` digits at the front. -/
def takeDigits : Nat → List Char → List Char × List Char
  | 0, s => ([], s)
  | _, [] => ([], [])
  | most + 1, c :: rest =>
    if c.isDigit then
      let (ds, after) := takeDigits most rest
      (c :: ds, after)
    else ([], c :: rest)

def number (ds : List Char) : Nat := ds.foldl (fun n c => n * 10 + (c.toNat - '0'.toNat)) 0

def skipBlanks (s : List Char) : List Char := s.dropWhile isBlank

/-- A number of one to `most` digits, after blanks. -/
def readNumber? (most : Nat) (s : List Char) : Option (Nat × List Char) :=
  match takeDigits most (skipBlanks s) with
  | ([], _) => none
  | (ds, rest) => some (number ds, rest)

/-- A year; with a sign in front it may have any number of digits. -/
def readYear? (s : List Char) : Option (Int × List Char) :=
  match skipBlanks s with
  | '-' :: rest =>
    match takeDigits rest.length rest with
    | ([], _) => none
    | (ds, rest) => some (-(number ds), rest)
  | '+' :: rest =>
    match takeDigits rest.length rest with
    | ([], _) => none
    | (ds, rest) => some (number ds, rest)
  | s =>
    match takeDigits 4 s with
    | ([], _) => none
    | (ds, rest) => some (number ds, rest)

def expect? (c : Char) (s : List Char) : Option (List Char) :=
  match skipBlanks s with
  | d :: rest => if d = c then some rest else none
  | [] => none

/-- Date and time of day are parted by `T` or one space. -/
def readSeparator? : List Char → Option (List Char)
  | 'T' :: rest => some rest
  | 't' :: rest => some rest
  | ' ' :: rest => some rest
  | _ => none

/-- Nanoseconds after a point; digits past the ninth are dropped. -/
def readFraction? (s : List Char) : Option (Nat × List Char) :=
  match s with
  | '.' :: rest =>
    match takeDigits 9 rest with
    | ([], _) => none
    | (ds, rest) => some (number ds * Nat.pow 10 (9 - ds.length), rest.dropWhile Char.isDigit)
  | s => some (0, s)

def twoDigits? : List Char → Option (Nat × List Char)
  | a :: b :: rest => if a.isDigit ∧ b.isDigit then some (number [a, b], rest) else none
  | _ => none

/-- Hours and minutes of an offset, in minutes. -/
def readClock? (s : List Char) : Option (Nat × List Char) := do
  let (hours, s) ← twoDigits? s
  let (minutes, s) ← twoDigits? (s.dropWhile fun c => c == ':' || isBlank c)
  if minutes < 60 then some (hours * 60 + minutes, s) else none

/-- The offset from universal time, in minutes. -/
def readOffset? (s : List Char) : Option (Int × List Char) :=
  if s.length ≥ 3 ∧ Text.sameLetters (String.ofList (s.take 3)) "UTC" then some (0, s.drop 3)
  else match s with
    | 'Z' :: rest => some (0, rest)
    | 'z' :: rest => some (0, rest)
    | '+' :: rest => (readClock? rest).map fun (m, r) => ((m : Int), r)
    | '-' :: rest => (readClock? rest).map fun (m, r) => (-(m : Int), r)
    | '\u2212' :: rest => (readClock? rest).map fun (m, r) => (-(m : Int), r)
    | _ => none

def readDate? (s : List Char) : Option (Date × List Char) := do
  let (year, s) ← readYear? s
  let s ← expect? '-' s
  let (month, s) ← readNumber? 2 s
  let s ← expect? '-' s
  let (day, s) ← readNumber? 2 s
  let date ← Date.of? year month day
  some (date, s)

/-- The moment that a text spells. -/
def read? (s : List Char) : Option Instant := do
  let (date, s) ← readDate? s
  let s ← readSeparator? s
  let (hour, s) ← readNumber? 2 s
  let s ← expect? ':' s
  let (minute, s) ← readNumber? 2 s
  let s ← expect? ':' s
  let (second, s) ← readNumber? 2 s
  let (nanos, s) ← readFraction? s
  let (offset, s) ← readOffset? (skipBlanks s)
  let face ← of? date hour minute second nanos
  if skipBlanks s = [] ∧ offset.natAbs < 1440 then face.minusMinutes? offset else none

example : (read? "9999-12-31T23:59:59-23:59".toList).map print =
    some "+10000-01-01T23:58:59Z".toList := by decide +kernel

end LiveTelemetry.Instant
