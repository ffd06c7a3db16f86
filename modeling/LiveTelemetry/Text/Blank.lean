/-!
Blank space and slashes at the ends of a text. Main statement: dropping a tail twice is dropping
it once.
-/
namespace LiveTelemetry.Text

/-- Unicode's White_Space property. -/
def isBlank (c : Char) : Bool :=
  let n := c.toNat
  (0x9 ≤ n && n ≤ 0xD) || n == 0x20 || n == 0x85 || n == 0xA0 || n == 0x1680 ||
    (0x2000 ≤ n && n ≤ 0x200A) || n == 0x2028 || n == 0x2029 || n == 0x202F || n == 0x205F ||
    n == 0x3000

/-- The list without the longest tail of members that satisfy `p`. -/
def dropTrailing (p : α → Bool) (xs : List α) : List α := (xs.reverse.dropWhile p).reverse

/-- The text without blanks at its ends. -/
def trim (s : String) : String :=
  String.ofList (dropTrailing isBlank (s.toList.dropWhile isBlank))

/-- The text without slashes at its end. -/
def trimSlashes (s : String) : String := String.ofList (dropTrailing (· == '/') s.toList)

def lowerAscii (s : String) : String := s.map Char.toLower

/-- Equality up to the case of ASCII letters. -/
def sameLetters (s t : String) : Bool := lowerAscii s == lowerAscii t

theorem isBlank_of_isWhitespace {c : Char} (h : c.isWhitespace = true) : isBlank c = true := by
  simp only [Char.isWhitespace, Bool.or_eq_true, decide_eq_true_eq] at h
  rcases h with ((rfl | rfl) | rfl) | rfl <;> rfl

theorem dropTrailing_append_singleton {p : α → Bool} {a : α} (xs : List α) (h : p a = false) :
    dropTrailing p (xs ++ [a]) = xs ++ [a] := by
  simp [dropTrailing, h]

theorem dropTrailing_eq_nil_or (p : α → Bool) (xs : List α) :
    dropTrailing p xs = [] ∨ ∃ ys a, dropTrailing p xs = ys ++ [a] ∧ p a = false := by
  unfold dropTrailing
  cases h : xs.reverse.dropWhile p with
  | nil => exact .inl rfl
  | cons a ys =>
    refine .inr ⟨ys.reverse, a, by simp, ?_⟩
    have := List.head_dropWhile_not p (l := xs.reverse) (by simp [h])
    simpa [h] using this

theorem dropTrailing_idem (p : α → Bool) (xs : List α) :
    dropTrailing p (dropTrailing p xs) = dropTrailing p xs := by
  rcases dropTrailing_eq_nil_or p xs with h | ⟨ys, a, h, ha⟩
  · rw [h]; rfl
  · rw [h, dropTrailing_append_singleton ys ha]

end LiveTelemetry.Text
