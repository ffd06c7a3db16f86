import Mathlib.Data.String.Basic
import LiveTelemetry.Json.Parser
/-!
Members in the order of their names. Main statements: members put in one by one, in any order, end
up as they were, and every value that is read has the members of its objects in order.
-/
namespace LiveTelemetry

namespace Members

/-- Every name comes after the ones before it. -/
def Sorted (ms : Members) : Prop := ms.Pairwise fun m n => m.1 < n.1

theorem mem_insert {name : String} {value : Json} {ms : Members} {m : String × Json}
    (h : m ∈ ms.insert name value) : m = (name, value) ∨ m ∈ ms := by
  induction ms with
  | nil => exact .inl (List.mem_singleton.1 h)
  | cons n ms ih =>
    obtain ⟨n, v⟩ := n
    simp only [insert] at h
    split at h
    · exact List.mem_cons.1 h
    · split at h
      · rcases List.mem_cons.1 h with h | h
        · exact .inl h
        · exact .inr (List.mem_cons_of_mem _ h)
      · rcases List.mem_cons.1 h with h | h
        · exact .inr (h ▸ List.mem_cons_self)
        · exact (ih h).imp_right (List.mem_cons_of_mem _)

theorem Sorted.insert {ms : Members} (h : Sorted ms) (name : String) (value : Json) :
    Sorted (ms.insert name value) := by
  induction ms with
  | nil => exact List.pairwise_singleton _ _
  | cons n ms ih =>
    obtain ⟨n, v⟩ := n
    obtain ⟨hfirst, hms⟩ := List.pairwise_cons.1 h
    simp only [Members.insert]
    split
    · rename_i hlt
      refine List.pairwise_cons.2 ⟨?_, h⟩
      intro m hm
      rcases List.mem_cons.1 hm with rfl | hm
      · exact hlt
      · exact lt_trans hlt (hfirst m hm)
    · split
      · rename_i heq
        subst heq
        exact List.pairwise_cons.2 ⟨hfirst, hms⟩
      · rename_i hge hne
        refine List.pairwise_cons.2 ⟨?_, ih hms⟩
        intro m hm
        rcases mem_insert hm with rfl | hm
        · exact lt_of_le_of_ne (not_lt.1 hge) (Ne.symm hne)
        · exact hfirst m hm

/-- A member of a new name is added to the others. -/
theorem insert_perm {name : String} {ms : Members} (h : ∀ m ∈ ms, name ≠ m.1) (value : Json) :
    (ms.insert name value).Perm ((name, value) :: ms) := by
  induction ms with
  | nil => exact .refl _
  | cons n ms ih =>
    obtain ⟨n, v⟩ := n
    obtain ⟨hn, hms⟩ := List.forall_mem_cons.1 h
    simp only [insert]
    split
    · exact .refl _
    · exact ((ih hms).cons _).trans (.swap _ _ _)

/-- Puts members in one after the other. -/
def insertAll (ms : Members) (new : Members) : Members :=
  new.foldl (fun ms m => ms.insert m.1 m.2) ms

theorem Sorted.insertAll {ms : Members} (h : Sorted ms) (new : Members) :
    Sorted (ms.insertAll new) := by
  induction new generalizing ms with
  | nil => exact h
  | cons m new ih => exact ih (h.insert m.1 m.2)

theorem insertAll_perm {ms new : Members} (h : (new ++ ms).Pairwise fun m n => m.1 ≠ n.1) :
    (ms.insertAll new).Perm (new ++ ms) := by
  induction new generalizing ms with
  | nil => exact .refl _
  | cons m new ih =>
    obtain ⟨hm, hrest⟩ := List.pairwise_cons.1 h
    have hinsert : (ms.insert m.1 m.2).Perm (m :: ms) :=
      insert_perm (fun n hn => hm n (List.mem_append_right _ hn)) m.2
    have hmove : (new ++ ms.insert m.1 m.2).Perm (m :: (new ++ ms)) :=
      (hinsert.append_left new).trans List.perm_middle
    have hdistinct : (new ++ ms.insert m.1 m.2).Pairwise fun m n => m.1 ≠ n.1 :=
      (hmove.pairwise_iff Ne.symm).2 h
    exact (ih hdistinct).trans hmove

/-- Members in order end up as they are, in whatever order they are put in. -/
theorem Sorted.insertAll_eq {ms new : Members} (h : Sorted ms) (hperm : new.Perm ms) :
    Members.insertAll [] new = ms := by
  have hapart : ms.Pairwise fun m n => m.1 ≠ n.1 := h.imp fun hlt => hlt.ne
  have hdistinct : (new ++ []).Pairwise fun m n : String × Json => m.1 ≠ n.1 := by
    rw [List.append_nil]
    exact (hperm.pairwise_iff Ne.symm).2 hapart
  have hall : (Members.insertAll [] new).Perm ms := by
    simpa using (insertAll_perm hdistinct).trans (by simpa using hperm)
  have hsorted : Sorted (Members.insertAll [] new) := Sorted.insertAll List.Pairwise.nil new
  refine hall.eq_of_pairwise ?_ hsorted h
  intro m n _ _ hmn hnm
  exact absurd hnm (lt_asymm hmn)

end Members

namespace Json

/-- Every object in the value has its members in the order of their names. -/
inductive Ordered : Json → Prop where
  | null : Ordered .null
  | bool (b : Bool) : Ordered (.bool b)
  | int (i : Int) : Ordered (.int i)
  | real (f : Float) : Ordered (.real f)
  | str (s : String) : Ordered (.str s)
  | arr {xs : List Json} (each : ∀ x ∈ xs, Ordered x) : Ordered (.arr xs)
  | obj {ms : List (String × Json)} (sorted : Members.Sorted ms) (each : ∀ m ∈ ms, Ordered m.2) :
    Ordered (.obj ms)

end Json

/-- Members in order, whose values are so throughout. -/
def Members.Ordered (ms : Members) : Prop := ms.Sorted ∧ ∀ m ∈ ms, m.2.Ordered

theorem Members.Ordered.nil : Members.Ordered [] := ⟨List.Pairwise.nil, by simp⟩

theorem Members.Ordered.insert {ms : Members} (h : ms.Ordered) (name : String) {value : Json}
    (hvalue : value.Ordered) : (ms.insert name value).Ordered := by
  refine ⟨h.1.insert name value, ?_⟩
  intro m hm
  rcases mem_insert hm with rfl | hm
  · exact hvalue
  · exact h.2 m hm

namespace Json

open Text (Symbol)

/-- What every element that is read has, all of them have. -/
theorem elements_forall {p : Reader α} {P : α → Prop}
    (hp : ∀ {s a r}, p.run s = .ok (a, r) → P a) {first : Bool} {done xs : List α}
    {s r : List Symbol} (hdone : ∀ a ∈ done, P a)
    (h : elements p first done s = .ok (xs, r)) : ∀ a ∈ xs, P a := by
  fun_induction elements p first done s with
  | case1 => cases h
  | case2 =>
    cases h
    simpa using hdone
  | case3 => cases h
  | case4 first done s t _ a r' ht _ _ ih =>
    refine ih ?_ h
    exact List.forall_mem_cons.2 ⟨hp ht, hdone⟩

/-- What every member that is read keeps, all of them keep. -/
theorem members_keeps {member : σ → String → Except Fault (Reader σ)} {P : σ → Prop}
    (hm : ∀ {acc name q s a r}, P acc → member acc name = .ok q → q.run s = .ok (a, r) → P a)
    {first : Bool} {acc out : σ} {s r : List Symbol} (hacc : P acc)
    (h : members member first acc s = .ok (out, r)) : P out := by
  fun_induction members member first acc s with
  | case1 => cases h
  | case2 =>
    cases h
    exact hacc
  | case3 => cases h
  | case4 => cases h
  | case5 => cases h
  | case6 => cases h
  | case7 first acc s t _ name _ _ q hq _ _ mid _ hv _ _ _ _ ih => exact ih (hm hacc hq hv) h

namespace Reader

theorem map_run {p : Reader α} {f : α → β} {s r : List Symbol} {b : β}
    (h : (p.map f).run s = .ok (b, r)) : ∃ a, p.run s = .ok (a, r) ∧ f a = b := by
  simp only [Reader.map] at h
  split at h
  · rename_i a r' ha
    obtain ⟨rfl, rfl⟩ := Prod.mk.inj (Except.ok.inj h)
    exact ⟨a, ha, rfl⟩
  · contradiction

theorem ordered_of_list {p : Reader Json} (hp : ∀ {s j r}, p.run s = .ok (j, r) → j.Ordered)
    {s r : List Symbol} {xs : List Json} (h : (list (some p)).run s = .ok (xs, r)) :
    (Json.arr xs).Ordered :=
  .arr (elements_forall hp (by simp) h)

theorem ordered_of_object {p : Reader Json} (hp : ∀ {s j r}, p.run s = .ok (j, r) → j.Ordered)
    {s r : List Symbol} {ms : Members} (h : (object (some p)).run s = .ok (ms, r)) :
    ms.Ordered := by
  refine members_keeps (P := Members.Ordered) ?_ Members.Ordered.nil h
  intro acc name q s out r hacc hq hrun
  obtain rfl := Except.ok.inj hq
  obtain ⟨v, hv, rfl⟩ := map_run hrun
  exact hacc.insert name (hp hv)

theorem ordered_of_valueOver {inner : Option (Reader Json)}
    (hp : ∀ p ∈ inner, ∀ {s j r}, p.run s = .ok (j, r) → j.Ordered) {s r : List Symbol} {j : Json}
    (h : (valueOver inner).run s = .ok (j, r)) : j.Ordered := by
  simp only [valueOver, afterSpace] at h
  split at h
  · contradiction
  · split at h
    · obtain ⟨⟨a, u⟩, -, h⟩ := map_eq_ok.1 h
      obtain ⟨rfl, -⟩ := Prod.mk.inj h
      cases a with
      | null => exact .null
      | bool b => exact .bool b
      | str s => exact .str s
      | number n =>
        cases n with
        | int i => exact .int i
        | real f => exact .real f
    · obtain ⟨xs, hxs, rfl⟩ := map_run h
      cases inner with
      | none => contradiction
      | some p => exact ordered_of_list (hp p rfl) hxs
    · obtain ⟨ms, hms, rfl⟩ := map_run h
      cases inner with
      | none => contradiction
      | some p =>
        obtain ⟨hsorted, heach⟩ := ordered_of_object (hp p rfl) hms
        exact .obj hsorted heach
    · contradiction

/-- Every value that is read has its members in order. -/
theorem ordered_of_value {room : Nat} {s r : List Symbol} {j : Json}
    (h : (value room).run s = .ok (j, r)) : j.Ordered := by
  induction room generalizing s r j with
  | zero => exact ordered_of_valueOver (by simp) h
  | succ room ih =>
    refine ordered_of_valueOver ?_ h
    rintro p ⟨⟩ s j r hrun
    exact ih hrun

end Reader

end Json

end LiveTelemetry
