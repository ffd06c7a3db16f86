import LiveTelemetry.Json.Parser
/-!
Passing over a value that nobody wants. Brackets still have to match and separators to stand where
they belong, but the value may nest to any depth and its strings are not decoded.
-/
namespace LiveTelemetry.Json

open Text (Symbol)

namespace Skip

inductive Bracket where
  | square
  | curly
  deriving DecidableEq

def Bracket.closing : Bracket → Symbol
  | square => .scalar ']'
  | curly => .scalar '}'

def Bracket.unclosed : Bracket → Fault
  | square => .endOfList
  | curly => .endOfObject

def Bracket.unseparated : Bracket → Fault
  | square => .expectedListCommaOrEnd
  | curly => .expectedObjectCommaOrEnd

/-- Where the text stands: before a value, after an opening bracket, or after a value. -/
inductive Place where
  | before
  | opened
  | after
  deriving DecidableEq

/-- A value without parts. -/
def atom (s : List Symbol) : Except Fault (List Symbol) :=
  match s with
  | .scalar c :: rest =>
    if c = '"' then Str.skip rest
    else if c = 'n' then keyword ['u', 'l', 'l'] rest
    else if c = 't' then keyword ['r', 'u', 'e'] rest
    else if c = 'f' then keyword ['a', 'l', 's', 'e'] rest
    else if c = '-' then Number.skip rest
    else Number.skip s
  | _ => .error .expectedValue

/-- A key and its colon. -/
def key (s : List Symbol) : Except Fault (List Symbol) :=
  match skipSpace s with
  | [] => .error .endOfObject
  | c :: rest => if c = .scalar '"' then do colon (← Str.skip rest) else .error .keyMustBeString

/-- What stands before an element of a collection. -/
def lead : Bracket → List Symbol → Except Fault (List Symbol)
  | .square, s => .ok s
  | .curly, s => key s

theorem atom_length {s r : List Symbol} (h : atom s = .ok r) : r.length < s.length := by
  unfold atom at h
  split at h
  · simp only [List.length_cons]
    split at h
    · have := Str.skip_length h; omega
    · split at h
      · have := keyword_length h; omega
      · split at h
        · have := keyword_length h; omega
        · split at h
          · have := keyword_length h; omega
          · split at h
            · have := Number.skip_length h; omega
            · have := Number.skip_length h
              simp only [List.length_cons] at this; omega
  · cases h

theorem lead_length {b : Bracket} {s r : List Symbol} (h : lead b s = .ok r) :
    r.length ≤ s.length := by
  cases b with
  | square => cases h; exact Nat.le_refl _
  | curly =>
    have hs := skipSpace_length_le s
    simp only [lead, key] at h
    split at h
    · cases h
    · rename_i c rest hc
      rw [hc, List.length_cons] at hs
      split at h
      · obtain ⟨t, ht, h⟩ := bind_eq_ok.1 h
        have := Str.skip_length ht
        have := colon_length h
        omega
      · cases h

/-- Passes over the rest of a value, with the brackets that are still open, innermost first. -/
def run (place : Place) (frames : List Bracket) (s : List Symbol) : Except Fault (List Symbol) :=
  match place, frames with
  | .after, [] => .ok s
  | .opened, [] => .ok s
  | .after, b :: outer =>
    match hs : skipSpace s with
    | [] => .error b.unclosed
    | c :: rest =>
      have : (c :: rest).length ≤ s.length := hs ▸ skipSpace_length_le s
      if c = b.closing then run .after outer rest
      else if c = .scalar ',' then
        match hl : lead b rest with
        | .error e => .error e
        | .ok r =>
          have := lead_length hl
          run .before (b :: outer) r
      else .error b.unseparated
  | .opened, b :: outer =>
    match hs : skipSpace s with
    | [] => .error b.unclosed
    | c :: rest =>
      have : (c :: rest).length ≤ s.length := hs ▸ skipSpace_length_le s
      if c = b.closing then run .after outer rest
      else
        match hl : lead b (c :: rest) with
        | .error e => .error e
        | .ok r =>
          have := lead_length hl
          run .before (b :: outer) r
  | .before, frames =>
    match hs : skipSpace s with
    | [] => .error .endOfValue
    | c :: rest =>
      have : (c :: rest).length ≤ s.length := hs ▸ skipSpace_length_le s
      match start c with
      | .list => run .opened (.square :: frames) rest
      | .object => run .opened (.curly :: frames) rest
      | .nothing => .error .expectedValue
      | .atom =>
        match ha : atom (c :: rest) with
        | .error e => .error e
        | .ok r =>
          have := atom_length ha
          run .after frames r
termination_by (s.length, if place = .opened then 1 else 0)
decreasing_by
  all_goals
    simp only [List.length_cons, Prod.lex_def, reduceIte] at *
    omega

theorem run_length_le {place : Place} {frames : List Bracket} {s r : List Symbol}
    (h : run place frames s = .ok r) : r.length ≤ s.length := by
  fun_induction run place frames s <;> grind

/-- What is left after the value that `c` begins. -/
def value (c : Symbol) (rest : List Symbol) : Except Fault (List Symbol) :=
  match start c with
  | .list => run .opened [.square] rest
  | .object => run .opened [.curly] rest
  | .nothing => .error .expectedValue
  | .atom => atom (c :: rest)

theorem value_length_le {c : Symbol} {s r : List Symbol} (h : value c s = .ok r) :
    r.length ≤ s.length := by
  unfold value at h
  split at h
  · exact run_length_le h
  · exact run_length_le h
  · cases h
  · have := atom_length h
    simp only [List.length_cons] at this
    omega

theorem map_value_length_le {c : Symbol} {s r : List Symbol} {u : Unit}
    (h : (value c s).map ((), ·) = .ok (u, r)) : r.length ≤ s.length := by
  obtain ⟨t, ht, h⟩ := map_eq_ok.1 h
  cases h
  exact value_length_le ht

end Skip

/-- Passes over a value. -/
def Reader.ignored : Reader Unit :=
  afterSpace (fun c rest => (Skip.value c rest).map ((), ·)) Skip.map_value_length_le

end LiveTelemetry.Json
