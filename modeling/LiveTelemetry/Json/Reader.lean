import LiveTelemetry.Json.Fault
import LiveTelemetry.Json.Value
import LiveTelemetry.Text.Utf8
/-!
Readers of JSON text. A reader takes symbols from the front of a text and leaves strictly fewer,
so a loop over readers ends; the proof travels with the reader.
-/
namespace LiveTelemetry.Json

open Text (Symbol)

abbrev Outcome (α : Type) := Except Fault (α × List Symbol)

theorem bind_eq_ok {x : Except ε α} {f : α → Except ε β} {b : β} :
    (x >>= f) = .ok b ↔ ∃ a, x = .ok a ∧ f a = .ok b := by
  cases x <;> simp [Bind.bind, Except.bind]

/-- Blanks between the parts of a JSON text. -/
def isSpace : Symbol → Bool
  | .scalar c => c == ' ' || c == '\n' || c == '\t' || c == '\r'
  | .broken _ => false

def skipSpace (s : List Symbol) : List Symbol := s.dropWhile isSpace

theorem skipSpace_length_le (s : List Symbol) : (skipSpace s).length ≤ s.length :=
  (List.dropWhile_sublist isSpace).length_le

/-- Takes a value from the front of a text and leaves strictly less of it. -/
structure Reader (α : Type) where
  run : List Symbol → Outcome α
  shrinks : ∀ {s a r}, run s = .ok (a, r) → r.length < s.length

namespace Reader

def map (f : α → β) (p : Reader α) : Reader β where
  run s := match p.run s with
    | .ok (a, r) => .ok (f a, r)
    | .error e => .error e
  shrinks {s b r} h := by
    split at h
    · rename_i a r' hp
      simp only [Except.ok.injEq, Prod.mk.injEq] at h
      obtain ⟨_, rfl⟩ := h
      exact p.shrinks hp
    · cases h

/-- Accepts what `p` reads only if `f` does. -/
def refine (p : Reader α) (f : α → Except Fault β) : Reader β where
  run s := match p.run s with
    | .ok (a, r) => match f a with
      | .ok b => .ok (b, r)
      | .error e => .error e
    | .error e => .error e
  shrinks {s b r} h := by
    split at h
    · rename_i a r' hp
      split at h
      · simp only [Except.ok.injEq, Prod.mk.injEq] at h
        obtain ⟨_, rfl⟩ := h
        exact p.shrinks hp
      · cases h
    · cases h

/-- Two readings in a row. -/
def bind (p : Reader α) (q : α → Reader β) : Reader β where
  run s := match p.run s with
    | .ok (a, r) => (q a).run r
    | .error e => .error e
  shrinks {s b r} h := by
    split at h
    · rename_i a r' hp
      exact Nat.lt_trans ((q a).shrinks h) (p.shrinks hp)
    · cases h

end Reader

end LiveTelemetry.Json
