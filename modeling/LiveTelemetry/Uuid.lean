import LiveTelemetry.Text.Hex
/-!
Identifiers of 128 bits. Main statement: reading a written identifier gives it back.
-/
namespace LiveTelemetry

/-- Thirty-two hexadecimal digits. -/
structure Uuid where
  digits : List (Fin 16)
  length_eq : digits.length = 32
  deriving DecidableEq

namespace Uuid

def nil : Uuid := ⟨List.replicate 32 (Text.nibble 0), by simp⟩

def ofDigits? (ds : List (Fin 16)) : Option Uuid :=
  if h : ds.length = 32 then some ⟨ds, h⟩ else none

/-- Digits before each of the hyphens. -/
def groups : List Nat := [8, 4, 4, 4]

def span : List Nat → Nat
  | [] => 0
  | n :: ns => n + span ns

/-- Puts a hyphen after each group. -/
def hyphenate : List Nat → List Char → List Char
  | [], s => s
  | n :: ns, s => s.take n ++ '-' :: hyphenate ns (s.drop n)

/-- Takes out the hyphens, which stand after each group and nowhere else. -/
def unhyphenate? : List Nat → List Char → Option (List Char)
  | [], s => some s
  | n :: ns, s =>
    match s.drop n with
    | '-' :: rest => (unhyphenate? ns rest).map (s.take n ++ ·)
    | _ => none

/-- The written form: lower case, in groups of 8, 4, 4, 4 and 12 digits. -/
def print (u : Uuid) : List Char := hyphenate groups (u.digits.map Text.hexDigit)

def readDigits? (s : List Char) : Option Uuid := (s.mapM Text.hexValue?).bind ofDigits?

def readGroups? (s : List Char) : Option Uuid := (unhyphenate? groups s).bind readDigits?

/-- Reads an identifier with or without hyphens; one with hyphens may stand in braces or after its
URN's name. -/
def read? (s : List Char) : Option Uuid :=
  match s.length with
  | 32 => readDigits? s
  | 36 => readGroups? s
  | 38 =>
    if s.head? = some '{' ∧ s.getLast? = some '}' then readGroups? s.tail.dropLast else none
  | 45 => if s.take 9 = "urn:uuid:".toList then readGroups? (s.drop 9) else none
  | _ => none

theorem unhyphenate?_hyphenate (ns : List Nat) (s : List Char) (h : span ns ≤ s.length) :
    unhyphenate? ns (hyphenate ns s) = some s := by
  induction ns generalizing s with
  | nil => rfl
  | cons n ns ih =>
    simp only [span] at h
    have hn : n ≤ s.length := by omega
    have hd : span ns ≤ (s.drop n).length := by simp only [List.length_drop]; omega
    simp [unhyphenate?, hyphenate, Nat.min_eq_left hn, ih _ hd, List.take_append_drop]

theorem length_hyphenate (ns : List Nat) (s : List Char) :
    (hyphenate ns s).length = ns.length + s.length := by
  induction ns generalizing s with
  | nil => simp [hyphenate]
  | cons n ns ih =>
    simp only [hyphenate, List.length_append, List.length_cons, ih, List.length_take,
      List.length_drop]
    omega

theorem mapM_hexValue?_hexDigit (ds : List (Fin 16)) :
    (ds.map Text.hexDigit).mapM Text.hexValue? = some ds := by
  induction ds with
  | nil => rfl
  | cons d ds ih => simp [List.mapM_cons, ih]

@[simp] theorem read?_print (u : Uuid) : read? u.print = some u := by
  have hl : u.print.length = 36 := by simp [print, length_hyphenate, groups, u.length_eq]
  have hs : span groups ≤ (u.digits.map Text.hexDigit).length := by
    simp [span, groups, u.length_eq]
  unfold read?
  rw [hl]
  simp only [readGroups?, print, unhyphenate?_hyphenate _ _ hs, Option.bind_some, readDigits?,
    mapM_hexValue?_hexDigit, ofDigits?, u.length_eq, dif_pos]

end Uuid

end LiveTelemetry
