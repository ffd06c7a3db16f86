/-!
Queues that give back first what was put in first. Main statements: each operation does to the
listed members what its name says.
-/
namespace LiveTelemetry

/-- The oldest members stand in `front` with the oldest first, the others in `back` with the
newest first. -/
structure Fifo (α : Type) where
  front : List α
  back : List α
  size : Nat
  size_eq : size = front.length + back.length

namespace Fifo

def empty : Fifo α := ⟨[], [], 0, rfl⟩

def isEmpty (q : Fifo α) : Bool := q.size == 0

/-- The members, the oldest first. -/
def toList (q : Fifo α) : List α := q.front ++ q.back.reverse

def push (q : Fifo α) (a : α) : Fifo α where
  front := q.front
  back := a :: q.back
  size := q.size + 1
  size_eq := by simp [q.size_eq]; omega

/-- Takes out the oldest member. -/
def pop? (q : Fifo α) : Option (α × Fifo α) :=
  match hf : q.front with
  | a :: rest => some (a, ⟨rest, q.back, q.size - 1, by simp [q.size_eq, hf]⟩)
  | [] =>
    match hb : q.back.reverse with
    | a :: rest =>
      some (a, ⟨rest, [], q.size - 1, by
        have := congrArg List.length hb
        simp only [List.length_reverse, List.length_cons] at this
        simp [q.size_eq, hf, this]⟩)
    | [] => none

/-- The queue without its oldest member, if it has one. -/
def tail (q : Fifo α) : Fifo α :=
  match q.pop? with
  | some (_, rest) => rest
  | none => q

@[simp] theorem toList_empty : (empty : Fifo α).toList = [] := rfl

@[simp] theorem length_toList (q : Fifo α) : q.toList.length = q.size := by
  simp [toList, q.size_eq]

@[simp] theorem size_push (q : Fifo α) (a : α) : (q.push a).size = q.size + 1 := rfl

@[simp] theorem toList_push (q : Fifo α) (a : α) : (q.push a).toList = q.toList ++ [a] := by
  simp [toList, push]

theorem pop?_eq_none {q : Fifo α} : q.pop? = none ↔ q.toList = [] := by
  unfold pop? toList
  split
  · simp_all
  · split <;> simp_all

theorem toList_pop? {q r : Fifo α} {a : α} (h : q.pop? = some (a, r)) :
    q.toList = a :: r.toList := by
  unfold pop? at h
  split at h
  · cases h
    simp_all [toList]
  · split at h
    · cases h
      simp_all [toList]
    · cases h

@[simp] theorem toList_tail (q : Fifo α) : q.tail.toList = q.toList.tail := by
  unfold tail
  split
  · rename_i h
    simp [toList_pop? h]
  · rename_i h
    simp [pop?_eq_none.1 h]

@[simp] theorem size_tail (q : Fifo α) : q.tail.size = q.size - 1 := by
  rw [← length_toList, toList_tail, List.length_tail, length_toList]

end Fifo

end LiveTelemetry
