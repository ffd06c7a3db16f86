import LiveTelemetry.Text.Numeral
/-!
Which texts are numbers. Main statement: those that are read as a number are its digits, with or
without a plus sign.
-/
namespace LiveTelemetry.Text.Numeral

/-- Digits, after a plus sign or none, for a number that fits 64 bits. -/
structure Spells (text : String) (n : Nat) : Prop where
  written : ∃ digits, (text.toList = digits ∨ text.toList = '+' :: digits) ∧ digits ≠ [] ∧
    (∀ c ∈ digits, c.isDigit = true) ∧ n = Nat.ofDigitChars 10 digits 0
  fits : n < limit

theorem value_eq (digits : List Char) : value digits = Nat.ofDigitChars 10 digits 0 := by
  simp only [value, Nat.ofDigitChars_eq_foldl, Nat.mul_comm 10]

theorem ofDigits?_eq_some_iff {digits : List Char} {n : Nat} :
    ofDigits? digits = some n ↔ digits ≠ [] ∧ (∀ c ∈ digits, c.isDigit = true) ∧
      n = Nat.ofDigitChars 10 digits 0 ∧ n < limit := by
  rw [ofDigits?, ← value_eq]
  constructor
  · intro h
    split at h
    · rename_i hall
      obtain ⟨hne, hdigits, hlt⟩ := hall
      obtain rfl := Option.some.inj h
      exact ⟨by simpa using hne, List.all_eq_true.1 hdigits, rfl, hlt⟩
    · contradiction
  · rintro ⟨hne, hdigits, rfl, hlt⟩
    exact if_pos ⟨by simpa using hne, List.all_eq_true.2 hdigits, hlt⟩

theorem read?_eq_some_iff {text : String} {n : Nat} : read? text = some n ↔ Spells text n := by
  have hplus : ¬ '+'.isDigit = true := by decide
  rw [read?]
  split
  · rename_i digits htext
    rw [ofDigits?_eq_some_iff]
    constructor
    · rintro ⟨hne, hdigits, hn, hlt⟩
      exact ⟨⟨digits, .inr htext, hne, hdigits, hn⟩, hlt⟩
    · rintro ⟨⟨ds, hds | hds, hne, hdigits, hn⟩, hlt⟩
      · have hmem : '+' ∈ ds := by simp [← hds, htext]
        exact absurd (hdigits '+' hmem) hplus
      · obtain rfl := List.tail_eq_of_cons_eq (htext.symm.trans hds)
        exact ⟨hne, hdigits, hn, hlt⟩
  · rename_i hnone
    rw [ofDigits?_eq_some_iff]
    constructor
    · rintro ⟨hne, hdigits, hn, hlt⟩
      exact ⟨⟨text.toList, .inl rfl, hne, hdigits, hn⟩, hlt⟩
    · rintro ⟨⟨ds, hds | hds, hne, hdigits, hn⟩, hlt⟩
      · rw [hds]
        exact ⟨hne, hdigits, hn, hlt⟩
      · exact absurd hds (hnone ds)

end LiveTelemetry.Text.Numeral
