/-!
Cutting a text at separators. Main statements: the pieces with their separators put back are the
text, and a text that goes on is cut as before.
-/
namespace LiveTelemetry.Text

/-- The pieces between separators; there is always one more than there are separators. -/
def fields (sep : α → Bool) : List α → List (List α)
  | [] => [[]]
  | a :: rest =>
    if sep a then [] :: fields sep rest
    else match fields sep rest with
      | [] => [[a]]
      | f :: fs => (a :: f) :: fs

/-- The pieces of a text between blanks and line ends. -/
def words (s : String) : List (List Char) :=
  (fields (fun c => c == ' ' || c == '\n') s.toList).filter (¬ ·.isEmpty)

/-- What stands before the first separator, and what stands after it, if there is one. -/
def cut (sep : α → Bool) : List α → List α × Option (List α)
  | [] => ([], none)
  | a :: rest =>
    if sep a then ([], some rest)
    else let (before, after) := cut sep rest; (a :: before, after)

/-- What stands before the last separator, if there is one, and what stands after it. -/
def cutLast (sep : α → Bool) (s : List α) : Option (List α) × List α :=
  match cut sep s.reverse with
  | (last, none) => (none, last.reverse)
  | (last, some before) => (some before.reverse, last.reverse)

theorem fields_ne_nil (sep : α → Bool) (s : List α) : fields sep s ≠ [] := by
  cases s with
  | nil => simp [fields]
  | cons a s => simp only [fields]; split <;> (try split) <;> simp

theorem intercalate_fields [DecidableEq α] (a : α) (s : List α) :
    List.intercalate [a] (fields (· == a) s) = s := by
  induction s with
  | nil => rfl
  | cons b s ih =>
    simp only [fields]
    split
    · rename_i h
      have hb : b = a := by simpa using h
      cases hf : fields (· == a) s with
      | nil => exact absurd hf (fields_ne_nil _ s)
      | cons f fs =>
        rw [hf] at ih
        simp [List.intercalate, hb, ← ih]
    · split
      · rename_i hf
        exact absurd hf (fields_ne_nil _ s)
      · rename_i f fs hf
        rw [hf] at ih
        cases fs <;> simp_all [List.intercalate]

/-- Each piece behind a separator, if there is one separator only: the text behind one. -/
theorem flatMap_fields {sep : α → Bool} {a : α} {s : List α} (h : ∀ b ∈ s, sep b = true → b = a) :
    (fields sep s).flatMap (a :: ·) = a :: s := by
  induction s with
  | nil => rfl
  | cons b s ih =>
    obtain ⟨hb, hs⟩ := List.forall_mem_cons.1 h
    have ih := ih hs
    simp only [fields]
    split
    · rename_i hsep
      rw [List.flatMap_cons, ih, hb hsep]
      rfl
    · cases hf : fields sep s with
      | nil => exact absurd hf (fields_ne_nil _ s)
      | cons f fs =>
        simp only [hf, List.flatMap_cons, List.cons_append, List.cons.injEq, true_and] at ih ⊢
        exact ih

theorem mem_of_mem_fields {sep : α → Bool} {s f : List α} (hf : f ∈ fields sep s) {a : α}
    (ha : a ∈ f) : a ∈ s ∧ sep a = false := by
  induction s generalizing f with
  | nil =>
    obtain rfl : f = [] := by simpa [fields] using hf
    contradiction
  | cons b s ih =>
    simp only [fields] at hf
    split at hf
    · rcases List.mem_cons.1 hf with rfl | hf
      · contradiction
      · exact (ih hf ha).imp_left (List.mem_cons_of_mem b)
    · rename_i hb
      cases hs : fields sep s with
      | nil => exact absurd hs (fields_ne_nil _ s)
      | cons g gs =>
        rw [hs] at hf ih
        rcases List.mem_cons.1 hf with rfl | hf
        · rcases List.mem_cons.1 ha with rfl | ha
          · exact ⟨List.mem_cons_self .., by simpa using hb⟩
          · exact (ih (List.mem_cons_self ..) ha).imp_left (List.mem_cons_of_mem b)
        · exact (ih (List.mem_cons_of_mem g hf) ha).imp_left (List.mem_cons_of_mem b)

theorem fields_append_cons {sep : α → Bool} (s : List α) {a : α} (h : sep a = true) (t : List α) :
    fields sep (s ++ a :: t) = fields sep s ++ fields sep t := by
  induction s with
  | nil => simp [fields, h]
  | cons b s ih =>
    simp only [List.cons_append, fields, ih]
    split
    · rfl
    · cases hf : fields sep s with
      | nil => exact absurd hf (fields_ne_nil sep s)
      | cons f fs => rfl

theorem cut_of_forall {sep : α → Bool} {s : List α} (h : ∀ a ∈ s, sep a = false) :
    cut sep s = (s, none) := by
  induction s with
  | nil => rfl
  | cons a s ih =>
    obtain ⟨ha, hs⟩ := List.forall_mem_cons.1 h
    simp [cut, ha, ih hs]

/-- A text is cut at its first separator, whatever is added to it, if it has one. -/
theorem cut_cases (sep : α → Bool) (s : List α) :
    (∃ before after, ∀ t, cut sep (s ++ t) = (before, some (after ++ t))) ∨
    ∀ a ∈ s, sep a = false := by
  induction s with
  | nil => exact .inr (by simp)
  | cons a s ih =>
    cases ha : sep a with
    | true => exact .inl ⟨[], s, fun t => by simp [cut, ha]⟩
    | false =>
      rcases ih with ⟨before, after, hs⟩ | hall
      · exact .inl ⟨a :: before, after, fun t => by simp [cut, ha, hs]⟩
      · exact .inr (List.forall_mem_cons.2 ⟨ha, hall⟩)

end LiveTelemetry.Text
