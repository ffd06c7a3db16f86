import LiveTelemetry.Json.Reader
import LiveTelemetry.Text.Hex
/-!
Strings of a JSON text: from the opening mark to the closing one, escapes resolved.
-/
namespace LiveTelemetry.Json

open Text (Symbol)

namespace Str

def hex? : Symbol → Option Nat
  | .scalar c => (Text.hexValue? c).map Fin.val
  | .broken _ => none

def octets (s : List Symbol) : Nat := s.foldl (fun n x => n + x.size) 0

/-- The four digits of a numbered character. -/
def hexEscape (s : List Symbol) : Outcome Nat :=
  if octets (s.take 4) < 4 then .error .endOfString
  else match s with
    | a :: b :: c :: d :: rest =>
      match hex? a, hex? b, hex? c, hex? d with
      | some a, some b, some c, some d => .ok (((a * 16 + b) * 16 + c) * 16 + d, rest)
      | _, _, _, _ => .error .invalidEscape
    | _ => .error .invalidEscape

/-- The low half of a pair, after its high half. -/
def lowHalf (high : Nat) : List Symbol → Outcome Char
  | [] => .error .endOfString
  | .scalar '\\' :: [] => .error .endOfString
  | .scalar '\\' :: .scalar 'u' :: rest =>
    match hexEscape rest with
    | .error e => .error e
    | .ok (low, rest) =>
      if 0xDC00 ≤ low ∧ low ≤ 0xDFFF then
        .ok (Char.ofNat (0x10000 + (high - 0xD800) * 0x400 + (low - 0xDC00)), rest)
      else .error .loneLeadingSurrogate
  | _ => .error .unexpectedEndOfHexEscape

/-- A numbered character; beyond the first plane it takes two numbers. -/
def numbered (s : List Symbol) : Outcome Char :=
  match hexEscape s with
  | .error e => .error e
  | .ok (n, rest) =>
    if 0xDC00 ≤ n ∧ n ≤ 0xDFFF then .error .loneLeadingSurrogate
    else if 0xD800 ≤ n ∧ n ≤ 0xDBFF then lowHalf n rest
    else .ok (Char.ofNat n, rest)

/-- The character a letter stands for after a backslash. -/
def named? : Char → Option Char
  | '"' => some '"'
  | '\\' => some '\\'
  | '/' => some '/'
  | 'b' => some '\x08'
  | 'f' => some '\x0c'
  | 'n' => some '\n'
  | 'r' => some '\r'
  | 't' => some '\t'
  | _ => none

/-- What follows a backslash. -/
def escape : List Symbol → Outcome Char
  | [] => .error .endOfString
  | .broken _ :: _ => .error .invalidEscape
  | .scalar c :: rest =>
    if c = 'u' then numbered rest
    else match named? c with
      | some d => .ok (d, rest)
      | none => .error .invalidEscape

theorem hexEscape_length {s r : List Symbol} {n : Nat} (h : hexEscape s = .ok (n, r)) :
    r.length < s.length := by
  unfold hexEscape at h
  split at h
  · cases h
  · split at h
    · split at h
      · cases h; simp only [List.length_cons]; omega
      · cases h
    · cases h

theorem lowHalf_length {high : Nat} {s r : List Symbol} {c : Char}
    (h : lowHalf high s = .ok (c, r)) : r.length < s.length := by
  unfold lowHalf at h
  split at h
  · cases h
  · cases h
  · split at h
    · cases h
    · rename_i hr
      have := hexEscape_length hr
      split at h
      · simp only [Except.ok.injEq, Prod.mk.injEq] at h
        obtain ⟨_, rfl⟩ := h
        simp only [List.length_cons]; omega
      · cases h
  · cases h

theorem numbered_length {s r : List Symbol} {c : Char} (h : numbered s = .ok (c, r)) :
    r.length < s.length := by
  unfold numbered at h
  split at h
  · cases h
  · rename_i hr
    have := hexEscape_length hr
    split at h
    · cases h
    · split at h
      · have := lowHalf_length h; omega
      · simp only [Except.ok.injEq, Prod.mk.injEq] at h
        obtain ⟨_, rfl⟩ := h
        omega

theorem escape_length {s r : List Symbol} {c : Char} (h : escape s = .ok (c, r)) :
    r.length < s.length := by
  unfold escape at h
  split at h
  · cases h
  · cases h
  · split at h
    · have := numbered_length h; simp only [List.length_cons]; omega
    · split at h
      · cases h; simp
      · cases h

/-- The rest of a string whose characters so far are `done`, latest first. A gap spoils the
string, which shows only when it ends. -/
def body (done : List Char) (sound : Bool) (s : List Symbol) : Outcome String :=
  match s with
  | [] => .error .endOfString
  | .broken _ :: rest => body done false rest
  | .scalar c :: rest =>
    if c = '"' then
      if sound then .ok (String.ofList done.reverse, rest) else .error .invalidCodePoint
    else if c = '\\' then
      match h : escape rest with
      | .error e => .error e
      | .ok (d, after) =>
        have := escape_length h
        body (d :: done) sound after
    else if c.toNat < 0x20 then .error .controlCharacter
    else body (c :: done) sound rest
termination_by s.length
decreasing_by all_goals simp only [List.length_cons]; omega

theorem body_length {done : List Char} {sound : Bool} {s r : List Symbol} {a : String}
    (h : body done sound s = .ok (a, r)) : r.length < s.length := by
  fun_induction body done sound s with
  | case1 => cases h
  | case2 done sound n rest ih => have := ih h; simp only [List.length_cons]; omega
  | case3 => cases h; simp
  | case4 => cases h
  | case5 => cases h
  | case6 done sound rest _ d after he hl ih =>
    have := ih h; simp only [List.length_cons]; omega
  | case7 => cases h
  | case8 done sound c rest _ _ _ ih => have := ih h; simp only [List.length_cons]; omega

/-- What follows a backslash in a string that is passed over. -/
def skipEscape : List Symbol → Except Fault (List Symbol)
  | [] => .error .endOfString
  | .broken _ :: _ => .error .invalidEscape
  | .scalar c :: rest =>
    if c = 'u' then (hexEscape rest).map Prod.snd
    else if (named? c).isSome then .ok rest
    else .error .invalidEscape

theorem skipEscape_length {s r : List Symbol} (h : skipEscape s = .ok r) :
    r.length < s.length := by
  unfold skipEscape at h
  split at h
  · cases h
  · cases h
  · split at h
    · cases hr : hexEscape _ with
      | error e => rw [hr] at h; cases h
      | ok p =>
        rw [hr] at h; cases h
        have := hexEscape_length (n := p.1) (r := p.2) hr
        simp only [List.length_cons]; omega
    · split at h
      · cases h; simp
      · cases h

/-- Passes over the rest of a string; gaps and halves of pairs do not matter there. -/
def skip (s : List Symbol) : Except Fault (List Symbol) :=
  match s with
  | [] => .error .endOfString
  | .broken _ :: rest => skip rest
  | .scalar c :: rest =>
    if c = '"' then .ok rest
    else if c = '\\' then
      match h : skipEscape rest with
      | .error e => .error e
      | .ok after =>
        have := skipEscape_length h
        skip after
    else if c.toNat < 0x20 then .error .controlCharacter
    else skip rest
termination_by s.length
decreasing_by all_goals simp only [List.length_cons]; omega

theorem skip_length {s r : List Symbol} (h : skip s = .ok r) : r.length < s.length := by
  fun_induction skip s with
  | case1 => cases h
  | case2 n rest ih => have := ih h; simp only [List.length_cons]; omega
  | case3 => cases h; simp
  | case4 => cases h
  | case5 rest _ after he hl ih => have := ih h; simp only [List.length_cons]; omega
  | case6 => cases h
  | case7 c rest _ _ _ ih => have := ih h; simp only [List.length_cons]; omega

/-- A string whose opening mark has been taken. -/
def reader : Reader String where
  run := body [] true
  shrinks := body_length

end Str

end LiveTelemetry.Json
