import LiveTelemetry.Json.Collection
import LiveTelemetry.Json.Number
import LiveTelemetry.Text.Quoted
/-!
Readers for whole JSON values: any value, a value of one kind, and a value that is passed over.
-/
namespace LiveTelemetry.Json

open Text (Symbol)

/-- The rest of a word such as `null`. -/
def keyword : List Char → List Symbol → Except Fault (List Symbol)
  | [], s => .ok s
  | _ :: _, [] => .error .endOfValue
  | c :: cs, d :: rest => if d = .scalar c then keyword cs rest else .error .expectedIdent

theorem keyword_length {word : List Char} {s r : List Symbol} (h : keyword word s = .ok r) :
    r.length ≤ s.length := by
  fun_induction keyword word s with
  | case1 => cases h; exact Nat.le_refl _
  | case2 => cases h
  | case3 c cs rest ih => have := ih h; simp only [List.length_cons]; omega
  | case4 => cases h

/-- Values without parts. -/
inductive Atom where
  | null
  | bool (b : Bool)
  | number (n : Number)
  | str (s : String)

def Atom.toJson : Atom → Json
  | null => .null
  | bool b => .bool b
  | number n => n.toJson
  | str s => .str s

def Atom.found : Atom → Found
  | null => .null
  | bool b => .bool b
  | number n => n.found
  | str s => .str (Text.quote s)

/-- What the first symbol of a value announces. -/
inductive Start where
  | atom
  | list
  | object
  | nothing

def start : Symbol → Start
  | .broken _ => .nothing
  | .scalar c =>
    if c = '[' then .list
    else if c = '{' then .object
    else if c = '"' ∨ c = 'n' ∨ c = 't' ∨ c = 'f' ∨ c = '-' ∨ ('0' ≤ c ∧ c ≤ '9') then .atom
    else .nothing

/-- A value without parts, at its first symbol. -/
def atom (s : List Symbol) : Except Fault (Atom × List Symbol) :=
  match s with
  | .scalar c :: rest =>
    if c = '"' then (Str.reader.run rest).map fun (t, r) => (.str t, r)
    else if c = 'n' then (keyword ['u', 'l', 'l'] rest).map (.null, ·)
    else if c = 't' then (keyword ['r', 'u', 'e'] rest).map (.bool true, ·)
    else if c = 'f' then (keyword ['a', 'l', 's', 'e'] rest).map (.bool false, ·)
    else (Number.read s).map fun (n, r) => (.number n, r)
  | _ => .error .expectedValue

theorem map_eq_ok {x : Except Fault α} {f : α → β} {b : β} :
    x.map f = .ok b ↔ ∃ a, x = .ok a ∧ f a = b := by
  cases x <;> simp [Except.map]

theorem atom_length {s r : List Symbol} {a : Atom} (h : atom s = .ok (a, r)) :
    r.length < s.length := by
  unfold atom at h
  split at h
  · split at h
    · obtain ⟨⟨t, u⟩, ht, h⟩ := map_eq_ok.1 h
      have := Str.reader.shrinks ht
      cases h; simp only [List.length_cons]; omega
    · split at h
      · obtain ⟨t, ht, h⟩ := map_eq_ok.1 h
        have := keyword_length ht
        cases h; simp only [List.length_cons]; omega
      · split at h
        · obtain ⟨t, ht, h⟩ := map_eq_ok.1 h
          have := keyword_length ht
          cases h; simp only [List.length_cons]; omega
        · split at h
          · obtain ⟨t, ht, h⟩ := map_eq_ok.1 h
            have := keyword_length ht
            cases h; simp only [List.length_cons]; omega
          · obtain ⟨⟨n, u⟩, hn, h⟩ := map_eq_ok.1 h
            have := Number.read_length hn
            cases h; omega
  · cases h

/-- Complains about the value at the front of `s`, unless it is no value at all. -/
def mismatch (expected : String) (s : List Symbol) : Fault :=
  match s with
  | [] => .endOfValue
  | c :: _ =>
    match start c with
    | .list => .mismatch .arr expected
    | .object => .mismatch .obj expected
    | .nothing => .expectedValue
    | .atom =>
      match atom s with
      | .ok (a, _) => .mismatch a.found expected
      | .error e => e

namespace Reader

/-- A reader that sees the text from its first symbol that is no blank. -/
def afterSpace (run : Symbol → List Symbol → Except Fault (α × List Symbol))
    (shrinks : ∀ {c s a r}, run c s = .ok (a, r) → r.length ≤ s.length) : Reader α where
  run s := match skipSpace s with
    | [] => .error .endOfValue
    | c :: rest => run c rest
  shrinks {s a r} h := by
    have hs := skipSpace_length_le s
    split at h
    · cases h
    · rename_i c rest hc
      have := shrinks h
      rw [hc, List.length_cons] at hs
      omega

/-- A string; anything else is not what was `expected`. -/
def text (expected : String) : Reader String :=
  afterSpace
    (fun c rest => if c = .scalar '"' then Str.reader.run rest
      else .error (mismatch expected (c :: rest)))
    (fun {c s a r} h => by
      split at h
      · exact Nat.le_of_lt (Str.reader.shrinks h)
      · cases h)

/-- A number. -/
def float : Reader Float :=
  afterSpace
    (fun c rest => match atom (c :: rest), start c with
      | .ok (.number n, r), .atom => .ok (n.toFloat, r)
      | _, _ => .error (mismatch "f64" (c :: rest)))
    (fun {c s a r} h => by
      split at h
      · rename_i n r' ha _
        have := atom_length ha
        cases h
        simp only [List.length_cons] at this
        omega
      · cases h)

/-- `null`, and nothing else. -/
def null (expected : String) : Reader Unit :=
  afterSpace
    (fun c rest => if c = .scalar 'n' then (keyword ['u', 'l', 'l'] rest).map ((), ·)
      else .error (mismatch expected (c :: rest)))
    (fun {c s a r} h => by
      split at h
      · obtain ⟨t, ht, h⟩ := map_eq_ok.1 h
        cases h
        exact keyword_length ht
      · cases h)

/-- `null`, or what `p` reads. -/
def optional (p : Reader α) : Reader (Option α) where
  run s := match skipSpace s with
    | .scalar 'n' :: rest => (keyword ['u', 'l', 'l'] rest).map (none, ·)
    | [] => (p.map some).run []
    | t => (p.map some).run t
  shrinks {s a r} h := by
    have hs := skipSpace_length_le s
    split at h
    · rename_i rest hc
      obtain ⟨t, ht, h⟩ := map_eq_ok.1 h
      have := keyword_length ht
      cases h
      rw [hc, List.length_cons] at hs
      omega
    · have := (p.map some).shrinks h
      simp at this
    · have := (p.map some).shrinks h
      omega

/-- The elements of a list in brackets, each read by `element`; `none` forbids going deeper. -/
def list (element : Option (Reader α)) : Reader (List α) where
  run s := match element with
    | none => .error .recursionLimit
    | some element => elements element true [] s
  shrinks h := by
    split at h
    · cases h
    · exact elements_length h

/-- The members of an object in braces, each read by `value`; `none` forbids going deeper. -/
def object (value : Option (Reader Json)) : Reader Members where
  run s := match value with
    | none => .error .recursionLimit
    | some value =>
      members (fun ms name => .ok (value.map fun v => Members.insert name v ms)) true [] s
  shrinks h := by
    split at h
    · cases h
    · exact members_length h

/-- Any value, whose parts `inner` reads. -/
def valueOver (inner : Option (Reader Json)) : Reader Json :=
  afterSpace
    (fun c rest => match start c with
      | .atom => (atom (c :: rest)).map fun (a, r) => (a.toJson, r)
      | .list => ((list inner).map Json.arr).run rest
      | .object => ((object inner).map Json.obj).run rest
      | .nothing => .error .expectedValue)
    (fun {c s a r} h => by
      split at h
      · obtain ⟨⟨b, u⟩, hb, h⟩ := map_eq_ok.1 h
        have := atom_length hb
        cases h
        simp only [List.length_cons] at this
        omega
      · exact Nat.le_of_lt (Reader.shrinks _ h)
      · exact Nat.le_of_lt (Reader.shrinks _ h)
      · cases h)

/-- Any value that opens at most `room` brackets one inside the other. -/
def value : Nat → Reader Json
  | 0 => valueOver none
  | room + 1 => valueOver (some (value room))

end Reader

/-- Brackets one inside the other that a text may open. -/
def maxDepth : Nat := 127

/-- Reads all of a text; only blanks may follow the value. -/
def readAll (p : Reader α) (s : List Symbol) : Except Fault α := do
  let (a, rest) ← p.run s
  if (skipSpace rest).isEmpty then .ok a else .error .trailingCharacters

/-- The value that a text spells. -/
def parse (s : List Symbol) : Except Fault Json := readAll (Reader.value maxDepth) s

end LiveTelemetry.Json
