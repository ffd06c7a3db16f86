import LiveTelemetry.Notice
import LiveTelemetry.Text.Fields
import LiveTelemetry.Text.Numeral
/-!
Which lines of the log are shown. A filter is a list of rules; of the rules for a part of the
program, the one that names it most closely decides.
-/
namespace LiveTelemetry.Console

open Text (cut fields)

/-- How much is shown: nothing at 0, errors at 1, and all there is at 5. -/
abbrev Verbosity := Nat

def Level.verbosity : Level → Verbosity
  | .error => 1
  | .warn => 2
  | .info => 3
  | .debug => 4

def Verbosity.all : Verbosity := 5

def words : List (String × Verbosity) :=
  [("off", 0), ("error", 1), ("warn", 2), ("info", 3), ("debug", 4), ("trace", 5)]

def Verbosity.ofText? (s : String) : Option Verbosity :=
  match Text.Numeral.read? s with
  | some n => if n ≤ Verbosity.all then some n else none
  | none => words.lookup (Text.lowerAscii s)

/-- A rule for the parts whose names begin with `target`; one that is for a stretch of work only is
for no part. -/
structure Rule where
  target : String
  stretch : Bool
  verbosity : Verbosity

abbrev Filter := List Rule

namespace Rule

def startsWell (c : Char) : Bool := c.isAlphanum || c == '-' || c == ':' || c == '_' || c == '['

/-- The level after the sign that announces it. -/
def level? (s : List Char) : Option Verbosity :=
  if s.isEmpty then some Verbosity.all else Verbosity.ofText? (String.ofList s)

/-- A rule that names a stretch of work in brackets. -/
def stretch? (target rest : List Char) : Option Rule :=
  match cut (· == ']') rest with
  | (_, some []) => some ⟨String.ofList target, true, Verbosity.all⟩
  | (_, some ('=' :: level)) => (level? level).map fun v => ⟨String.ofList target, true, v⟩
  | _ => none

def ofText? (s : String) : Option Rule :=
  let chars := (Text.trim s).toList
  if chars.head?.any startsWell then
    match cut (· == '[') chars, cut (· == '=') chars with
    | (target, some rest), _ => stretch? target rest
    | _, (target, some level) =>
      (level? level).map fun v => ⟨String.ofList target, false, v⟩
    | _, _ =>
      match Verbosity.ofText? (Text.trim s) with
      | some v => some ⟨"", false, v⟩
      | none => some ⟨Text.trim s, false, Verbosity.all⟩
  else none

def covers (r : Rule) (target : String) : Bool :=
  ¬ r.stretch && r.target.toList.isPrefixOf target.toList

end Rule

namespace Filter

/-- What is shown if nothing else is asked for. -/
def standard : Filter := [⟨"", false, Level.verbosity .info⟩]

/-- The rules in a text; a text without any shows errors. -/
def ofText? (s : String) : Option Filter := do
  let pieces := ((fields (· == ',') s.toList).map String.ofList).filter (¬ ·.isEmpty)
  if pieces.isEmpty then some [⟨"", false, Level.verbosity .error⟩] else pieces.mapM Rule.ofText?

/-- The variable of the environment that asks for a filter. -/
def variableName : String := "RUST_LOG"

/-- The filter that is asked for, if it can be read. -/
def ofRequest (s : Option String) : Filter := (s.bind ofText?).getD standard

/-- The closer of two rules; of two that are equally close, the later one. -/
def closer (best : Option Rule) (r : Rule) : Option Rule :=
  match best with
  | some b => if b.target.length ≤ r.target.length then some r else some b
  | none => some r

def verbosity (f : Filter) (target : String) : Verbosity :=
  (((f.filter (·.covers target)).foldl closer none).map Rule.verbosity).getD 0

def shows (f : Filter) (target : String) (l : Level) : Bool :=
  Level.verbosity l ≤ f.verbosity target

end Filter

end LiveTelemetry.Console
