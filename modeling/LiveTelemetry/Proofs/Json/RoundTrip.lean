import LiveTelemetry.Proofs.Json.Ordered
import LiveTelemetry.Proofs.Json.Reads
/-!
Values as JSON text. Main statement: a value of no floating-point numbers, and of integers that fit
64 bits, is read for itself if its brackets nest no deeper than the reader may go.
-/
namespace LiveTelemetry.Json

open Text (Symbol)

/-- Values without floating-point numbers, whose integers fit 64 bits. -/
inductive Plain : Json → Prop where
  | null : Plain .null
  | bool (b : Bool) : Plain (.bool b)
  | int {i : Int} (fits : Number.Fits i) : Plain (.int i)
  | str (s : String) : Plain (.str s)
  | arr {xs : List Json} (each : ∀ x ∈ xs, Plain x) : Plain (.arr xs)
  | obj {ms : List (String × Json)} (each : ∀ m ∈ ms, Plain m.2) : Plain (.obj ms)

mutual

/-- Brackets of the value that stand one inside the other. -/
def depth : Json → Nat
  | arr xs => depthOfEach xs + 1
  | obj ms => depthOfValues ms + 1
  | _ => 0

def depthOfEach : List Json → Nat
  | [] => 0
  | x :: xs => max (depth x) (depthOfEach xs)

def depthOfValues : List (String × Json) → Nat
  | [] => 0
  | m :: ms => max (depthOfValue m) (depthOfValues ms)

def depthOfValue : String × Json → Nat
  | (_, v) => depth v

end

theorem depth_le_depthOfEach {x : Json} {xs : List Json} (h : x ∈ xs) :
    x.depth ≤ depthOfEach xs := by
  induction xs with
  | nil => contradiction
  | cons y ys ih =>
    rw [depthOfEach]
    rcases List.mem_cons.1 h with rfl | h
    · exact Nat.le_max_left _ _
    · exact Nat.le_trans (ih h) (Nat.le_max_right _ _)

theorem depth_le_depthOfValues {m : String × Json} {ms : List (String × Json)} (h : m ∈ ms) :
    m.2.depth ≤ depthOfValues ms := by
  induction ms with
  | nil => contradiction
  | cons n ns ih =>
    rw [depthOfValues, depthOfValue]
    rcases List.mem_cons.1 h with rfl | h
    · exact Nat.le_max_left _ _
    · exact Nat.le_trans (ih h) (Nat.le_max_right _ _)

theorem printEach_eq_map (xs : List Json) : printEach xs = xs.map print := by
  induction xs with
  | nil => rfl
  | cons x xs ih => rw [printEach, ih, List.map_cons]

namespace Reader

/-- A value without parts begins as no other does. -/
theorem reads_atom {inner : Option (Reader Json)} {c : Char} {cs : List Char} {a : Atom}
    (hstart : start (.scalar c) = .atom) (hspace : isSpace (.scalar c) = false)
    (hread : ∀ rest, Closed rest → atom ((c :: cs).map .scalar ++ rest) = .ok (a, rest)) :
    (valueOver inner).Reads (c :: cs) a.toJson := by
  have hc : c ≠ ']' := by
    rintro rfl
    contradiction
  refine reads_afterSpace c cs hspace hc ?_
  intro rest hrest
  rw [hstart]
  exact map_eq_ok.2 ⟨(a, rest), hread rest hrest, rfl⟩

theorem reads_list {p : Reader Json} {texts : List (List Char)} {xs : List Json}
    (h : List.Forall₂ p.Reads texts xs) :
    (valueOver (some p)).Reads (printList texts) (.arr xs) := by
  refine reads_afterSpace '[' (commas texts ++ [']']) rfl (by decide) ?_
  intro rest _
  have hrun := elements_printed h rest
  have hstart : start (.scalar '[') = .list := rfl
  simp only [hstart, Reader.map, list, hrun]

theorem folds_insert {p : Reader Json} {new : Members} (h : ∀ m ∈ new, p.Reads m.2.print m.2)
    (ms : Members) :
    Folds (fun ms name => .ok (p.map fun v => Members.insert name v ms)) ms (printValues new)
      (ms.insertAll new) := by
  induction new generalizing ms with
  | nil => exact .nil ms
  | cons m new ih =>
    obtain ⟨name, v⟩ := m
    obtain ⟨hm, hnew⟩ := List.forall_mem_cons.1 h
    exact .cons rfl (hm.map _) (ih hnew _)

/-- Printed members are read in order, in whatever order they were printed. -/
theorem object_run {p : Reader Json} {ms new : Members} (h : ∀ m ∈ new, p.Reads m.2.print m.2)
    (sorted : ms.Sorted) (perm : new.Perm ms) (rest : List Symbol) :
    (object (some p)).run ((commas ((printValues new).map fun (n, v) => printMember n v) ++
      ['}']).map .scalar ++ rest) = .ok (ms, rest) := by
  rw [← sorted.insertAll_eq perm]
  exact members_printed (folds_insert h []) rest

theorem reads_object {p : Reader Json} {ms : Members} (h : ∀ m ∈ ms, p.Reads m.2.print m.2)
    (sorted : ms.Sorted) :
    (valueOver (some p)).Reads (printObject (printValues ms)) (.obj ms) := by
  refine reads_afterSpace '{' (commas ((printValues ms).map fun (n, v) => printMember n v) ++
    ['}']) rfl (by decide) ?_
  intro rest _
  have hrun := object_run h sorted (.refl ms) rest
  have hstart : start (.scalar '{') = .object := rfl
  simp only [hstart, Reader.map, hrun]

section

variable {c : Char} (h : c = '-' ∨ c.isDigit = true)
include h

theorem ne_of_number {d : Char} (hd : ¬ (d = '-' ∨ d.isDigit = true)) : c ≠ d := by
  rintro rfl
  exact hd h

theorem start_of_number : start (.scalar c) = .atom := by
  have hany : c = '"' ∨ c = 'n' ∨ c = 't' ∨ c = 'f' ∨ c = '-' ∨ ('0' ≤ c ∧ c ≤ '9') := by
    rcases h with h | h
    · exact .inr (.inr (.inr (.inr (.inl h))))
    · exact .inr (.inr (.inr (.inr (.inr (Char.isDigit_iff_toNat.1 h)))))
  simp only [start]
  rw [if_neg (ne_of_number h (by decide)), if_neg (ne_of_number h (by decide)), if_pos hany]

theorem isSpace_of_number : isSpace (.scalar c) = false := by
  simp only [isSpace, Bool.or_eq_false_iff, beq_eq_false_iff_ne]
  exact ⟨⟨⟨ne_of_number h (by decide), ne_of_number h (by decide)⟩, ne_of_number h (by decide)⟩,
    ne_of_number h (by decide)⟩

end

theorem reads_int {inner : Option (Reader Json)} {i : Int} (fits : Number.Fits i) :
    (valueOver inner).Reads (printInt i) (.int i) := by
  obtain ⟨c, cs, hcs, hc⟩ := Number.exists_printInt i
  rw [hcs]
  refine reads_atom (a := .number (.int i)) (start_of_number hc) (isSpace_of_number hc) ?_
  intro rest hrest
  have hread := Number.read_printInt fits hrest
  rw [hcs] at hread
  simp only [List.map_cons, List.cons_append, atom]
  rw [if_neg (ne_of_number hc (by decide)), if_neg (ne_of_number hc (by decide)),
    if_neg (ne_of_number hc (by decide)), if_neg (ne_of_number hc (by decide))]
  exact map_eq_ok.2 ⟨(.int i, rest), hread, rfl⟩

theorem reads_string {inner : Option (Reader Json)} (s : String) :
    (valueOver inner).Reads (printString s) (.str s) := by
  refine reads_atom (a := .str s) rfl (by decide) ?_
  intro rest _
  have hrun := Str.reader_run s rest
  refine map_eq_ok.2 ⟨(s, rest), ?_, rfl⟩
  simpa using hrun

theorem value_eq (room : Nat) :
    value room = valueOver (match room with | 0 => none | inner + 1 => some (value inner)) := by
  cases room <;> rfl

/-- A printed value is read for itself. -/
theorem reads_value {room : Nat} {j : Json} (plain : j.Plain) (ordered : j.Ordered)
    (hdepth : j.depth ≤ room) : (value room).Reads j.print j := by
  induction room using Nat.strongRecOn generalizing j with
  | _ room ih =>
    cases plain with
    | null =>
      rw [value_eq]
      exact reads_atom (a := .null) rfl (by decide) fun rest _ => rfl
    | bool b =>
      rw [value_eq]
      cases b with
      | false => exact reads_atom (a := .bool false) rfl (by decide) fun rest _ => rfl
      | true => exact reads_atom (a := .bool true) rfl (by decide) fun rest _ => rfl
    | int fits =>
      rw [value_eq]
      exact reads_int fits
    | str s =>
      rw [value_eq]
      exact reads_string s
    | @arr xs each =>
      obtain ⟨inner, rfl⟩ : ∃ inner, room = inner + 1 :=
        Nat.exists_eq_succ_of_ne_zero (by rw [depth] at hdepth; omega)
      have hinner : depthOfEach xs ≤ inner := Nat.le_of_succ_le_succ hdepth
      cases ordered with
      | arr ordered =>
        have hreads : List.Forall₂ (value inner).Reads (printEach xs) xs := by
          rw [printEach_eq_map, List.forall₂_map_left_iff, List.forall₂_same]
          intro x hx
          exact ih inner (Nat.lt_succ_self _) (each x hx) (ordered x hx)
            (Nat.le_trans (depth_le_depthOfEach hx) hinner)
        exact reads_list hreads
    | @obj ms each =>
      obtain ⟨inner, rfl⟩ : ∃ inner, room = inner + 1 :=
        Nat.exists_eq_succ_of_ne_zero (by rw [depth] at hdepth; omega)
      have hinner : depthOfValues ms ≤ inner := Nat.le_of_succ_le_succ hdepth
      cases ordered with
      | obj sorted ordered =>
        refine reads_object ?_ sorted
        intro m hm
        exact ih inner (Nat.lt_succ_self _) (each m hm) (ordered m hm)
          (Nat.le_trans (depth_le_depthOfValues hm) hinner)

end Reader

end LiveTelemetry.Json
