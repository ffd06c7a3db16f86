import Mathlib.Data.List.DropRight
import LiveTelemetry.Text.Blank
/-!
What stands at the ends of a text. Main statements: a text without the blanks at its ends, and one
without the slashes at its end, are told by the text that they are taken from.
-/
namespace LiveTelemetry.Text

theorem dropTrailing_append {p : α → Bool} (xs : List α) {tail : List α}
    (h : ∀ a ∈ tail, p a = true) : dropTrailing p (xs ++ tail) = dropTrailing p xs := by
  induction tail using List.reverseRecOn with
  | nil => rw [List.append_nil]
  | append_singleton tail a ih =>
    have ha : p a = true := h a (by simp)
    rw [← List.append_assoc]
    exact (List.rdropWhile_concat_pos p (xs ++ tail) a ha).trans
      (ih fun b hb => h b (List.mem_append_left _ hb))

theorem dropTrailing_of_last {p : α → Bool} {xs : List α}
    (h : ∀ a ∈ xs.getLast?, p a = false) : dropTrailing p xs = xs := by
  apply List.rdropWhile_eq_self_iff.2
  intro hne
  have hlast := h (xs.getLast hne) (List.getLast?_eq_getLast_of_ne_nil hne)
  simp [hlast]

/-- What is left is followed by members that satisfy `p`, and its last one does not. -/
theorem dropTrailing_eq_iff {p : α → Bool} {xs kept : List α} :
    dropTrailing p xs = kept ↔
      (∃ tail, xs = kept ++ tail ∧ ∀ a ∈ tail, p a = true) ∧ ∀ a ∈ kept.getLast?, p a = false := by
  constructor
  · rintro rfl
    refine ⟨⟨xs.rtakeWhile p, List.rdropWhile_append_rtakeWhile.symm,
      fun a ha => List.mem_rtakeWhile_imp ha⟩, ?_⟩
    intro a ha
    obtain ⟨hne, rfl⟩ := List.mem_getLast?_eq_getLast ha
    exact Bool.eq_false_iff.2 (List.rdropWhile_last_not p xs hne)
  · rintro ⟨⟨tail, rfl, htail⟩, hlast⟩
    rw [dropTrailing_append kept htail, dropTrailing_of_last hlast]

/-- `core` is what `s` says between the blanks at its ends. -/
structure Trimmed (s core : String) : Prop where
  within : ∃ front back, s.toList = front ++ core.toList ++ back ∧
    ∀ c ∈ front ++ back, isBlank c = true
  first : ∀ c ∈ core.toList.head?, isBlank c = false
  last : ∀ c ∈ core.toList.getLast?, isBlank c = false

theorem trimmed_trim (s : String) : Trimmed s (trim s) := by
  have htrim : (trim s).toList = dropTrailing isBlank (s.toList.dropWhile isBlank) := by
    simp [trim]
  obtain ⟨⟨back, hback, hblank⟩, hlast⟩ :=
    dropTrailing_eq_iff.1 (rfl : dropTrailing isBlank (s.toList.dropWhile isBlank) = _)
  rw [← htrim] at hback hlast
  refine ⟨⟨s.toList.takeWhile isBlank, back, ?_, ?_⟩, ?_, hlast⟩
  · rw [List.append_assoc, ← hback, List.takeWhile_append_dropWhile]
  · intro c hc
    rcases List.mem_append.1 hc with hc | hc
    · exact List.mem_takeWhile_imp hc
    · exact hblank c hc
  · intro c hc
    have hfront : c ∈ (s.toList.dropWhile isBlank).head? := by
      rw [hback, List.head?_append, Option.mem_def.1 hc, Option.some_or]
      rfl
    have hnot := List.head?_dropWhile_not isBlank s.toList
    rw [Option.mem_def.1 hfront] at hnot
    simpa using hnot

theorem trim_eq_iff {s core : String} : trim s = core ↔ Trimmed s core := by
  constructor
  · rintro rfl
    exact trimmed_trim s
  · rintro ⟨⟨front, back, hs, hblank⟩, hfirst, hlast⟩
    have hfront : ∀ c ∈ front, isBlank c = true := fun c hc => hblank c (List.mem_append_left _ hc)
    have hback : ∀ c ∈ back, isBlank c = true := fun c hc => hblank c (List.mem_append_right _ hc)
    have hdrop : dropTrailing isBlank (s.toList.dropWhile isBlank) = core.toList := by
      rw [hs, List.append_assoc, List.dropWhile_append_of_pos hfront]
      cases hcore : core.toList with
      | nil =>
        rw [List.nil_append, List.dropWhile_eq_nil_iff.2 hback]
        rfl
      | cons c rest =>
        rw [hcore] at hfirst hlast
        have hc : isBlank c = false := hfirst c rfl
        rw [List.cons_append, List.dropWhile_cons_of_neg (by simp [hc])]
        exact dropTrailing_eq_iff.2 ⟨⟨back, rfl, hback⟩, hlast⟩
    rw [trim, hdrop, String.ofList_toList]

theorem isBlank_of_isDigit {c : Char} (h : c.isDigit = true) : isBlank c = false := by
  have hrange : 48 ≤ c.toNat ∧ c.toNat ≤ 57 := Char.isDigit_iff_toNat.1 h
  simp only [isBlank, Bool.or_eq_false_iff, Bool.and_eq_false_iff, decide_eq_false_iff_not,
    beq_eq_false_iff_ne]
  omega

theorem trimmed_self {text : String} (first : ∀ c ∈ text.toList.head?, isBlank c = false)
    (last : ∀ c ∈ text.toList.getLast?, isBlank c = false) : Trimmed text text :=
  ⟨⟨[], [], by simp, by simp⟩, first, last⟩

theorem last_not_slash_iff {s : List Char} :
    (∀ c ∈ s.getLast?, (c == '/') = false) ↔ s.getLast? ≠ some '/' := by
  constructor
  · intro h hslash
    simpa using h '/' hslash
  · intro h c hc
    have hne : c ≠ '/' := by
      rintro rfl
      exact h hc
    simpa using hne

/-- `kept` is what `s` says before the slashes at its end. -/
def Unslashed (s kept : String) : Prop :=
  (∃ n, s.toList = kept.toList ++ List.replicate n '/') ∧ kept.toList.getLast? ≠ some '/'

theorem trimSlashes_eq_iff {s kept : String} : trimSlashes s = kept ↔ Unslashed s kept := by
  have hlist : trimSlashes s = kept ↔ dropTrailing (· == '/') s.toList = kept.toList := by
    rw [trimSlashes, ← String.toList_inj, String.toList_ofList]
  rw [hlist, dropTrailing_eq_iff, last_not_slash_iff]
  apply and_congr_left
  intro _
  constructor
  · rintro ⟨tail, hs, htail⟩
    have hslashes : tail = List.replicate tail.length '/' :=
      List.eq_replicate_of_mem fun c hc => by simpa using htail c hc
    exact ⟨tail.length, hslashes ▸ hs⟩
  · rintro ⟨n, hs⟩
    exact ⟨_, hs, fun c hc => by simpa using List.eq_of_mem_replicate hc⟩

end LiveTelemetry.Text
