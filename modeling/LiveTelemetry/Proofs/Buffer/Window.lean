import Mathlib.Data.List.DropRight
import Mathlib.Data.List.Induction
import Mathlib.Data.List.Perm.Subperm
import LiveTelemetry.Buffer.Basic
/-!
What waits in a buffer and what its batches hold, when any number of callers use it at once. Main
statement: it is the last of the items recorded since the last attempt to prepare, as many as there
is room for.
-/
namespace LiveTelemetry

open Telemetry (Item Batch Stamp)

namespace Backlog

/-- The fields of a backlog after an item is recorded. The oldest item makes room if it must. -/
theorem record_fields (b : Backlog) (i : Item) :
    (b.record i).capacity = b.capacity ∧ (b.record i).source = b.source ∧
    (b.record i).waiting.toList =
      (if b.limit ≤ b.waiting.toList.length then b.waiting.toList.tail else b.waiting.toList) ++
        [i] := by
  unfold record
  by_cases hfull : b.limit ≤ b.waiting.size
  · simp [hfull, evict, add]
  · simp [hfull, add]

theorem record_tally (b : Backlog) (i : Item) :
    (b.record i).tally = { b.tally with
      received := b.tally.received + 1
      dropped := b.tally.dropped + if b.limit ≤ b.waiting.size then 1 else 0 } := by
  unfold record
  by_cases hfull : b.limit ≤ b.waiting.size
  · simp [hfull, evict, add]
  · simp [hfull, add]

/-- The item that would make room for the next one. -/
def leaving (b : Backlog) : List Item :=
  if b.limit ≤ b.waiting.size then b.waiting.toList.take 1 else []

theorem leaving_append_waiting (b : Backlog) (i : Item) :
    b.leaving ++ (b.record i).waiting.toList = b.waiting.toList ++ [i] := by
  rw [(b.record_fields i).2.2, leaving, Fifo.length_toList]
  by_cases hfull : b.limit ≤ b.waiting.size
  · rw [if_pos hfull, if_pos hfull, ← List.append_assoc, ← List.drop_one, List.take_append_drop]
  · rw [if_neg hfull, if_neg hfull, List.nil_append]

theorem length_leaving (b : Backlog) :
    b.leaving.length = if b.limit ≤ b.waiting.size then 1 else 0 := by
  have hpos : 0 < b.limit := by
    unfold limit
    omega
  unfold leaving
  by_cases hfull : b.limit ≤ b.waiting.size
  · rw [if_pos hfull, if_pos hfull, List.length_take, Fifo.length_toList]
    omega
  · rw [if_neg hfull, if_neg hfull, List.length_nil]

/-- The batch that is made when all that waits is taken. -/
def batch (b : Backlog) (stamp : Stamp) (endpoint : Option String) : Batch :=
  ⟨stamp, b.source, b.drain.1, endpoint⟩

theorem prepare_eq (b : Backlog) (o : Outbox) (stamp : Stamp) (endpoint : Option String) :
    b.prepare o stamp endpoint =
      match o.push (b.batch stamp endpoint) with
      | .ok o =>
        (.ok (), b.drain.2.1.count (b.batch stamp endpoint).size, o,
          b.drain.2.2 ++ [.prepared (b.batch stamp endpoint).size endpoint])
      | .error e => (.error e, b.drain.2.1, o, b.drain.2.2) :=
  rfl

/-- What waits is the last of `items`, as many as there is room for. -/
def Holds (b : Backlog) (capacity : Nat) (source : String) (items : List Item) : Prop :=
  b.capacity = capacity ∧ b.source = source ∧ b.waiting.toList = items.rtake (max capacity 1)

theorem rtake_snoc {α : Type} (xs : List α) (x : α) {c : Nat} (hc : 0 < c) :
    (xs ++ [x]).rtake c =
      (if c ≤ (xs.rtake c).length then (xs.rtake c).tail else xs.rtake c) ++ [x] := by
  obtain ⟨n, rfl⟩ : ∃ n, c = n + 1 := ⟨c - 1, by omega⟩
  rw [List.rtake_concat_succ]
  congr 1
  simp only [List.rtake, List.length_drop, List.tail_drop]
  by_cases hlong : n + 1 ≤ xs.length
  · have hfull : n + 1 ≤ xs.length - (xs.length - (n + 1)) := by omega
    rw [if_pos hfull]
    congr 1
    omega
  · have hshort : ¬ n + 1 ≤ xs.length - (xs.length - (n + 1)) := by omega
    rw [if_neg hshort]
    congr 1
    omega

theorem Holds.record {b : Backlog} {capacity : Nat} {source : String} {items : List Item}
    (h : b.Holds capacity source items) (i : Item) :
    (b.record i).Holds capacity source (items ++ [i]) := by
  obtain ⟨hc, hs, hw⟩ := h
  obtain ⟨hc', hs', hw'⟩ := b.record_fields i
  refine ⟨hc'.trans hc, hs'.trans hs, ?_⟩
  have hlimit : b.limit = max capacity 1 := by rw [limit, hc]
  rw [hw', hlimit, hw, rtake_snoc items i (by omega)]

theorem Holds.drain {b : Backlog} {capacity : Nat} {source : String} {items : List Item}
    (h : b.Holds capacity source items) : b.drain.2.1.Holds capacity source [] :=
  ⟨h.1, h.2.1, by simp [Backlog.drain]⟩

theorem Holds.batch {b : Backlog} {capacity : Nat} {source : String} {items : List Item}
    (h : b.Holds capacity source items) (stamp : Stamp) (endpoint : Option String) :
    b.batch stamp endpoint = ⟨stamp, source, items.rtake (max capacity 1), endpoint⟩ := by
  obtain ⟨-, hs, hw⟩ := h
  simp [Backlog.batch, Backlog.drain, hs, hw]

theorem Holds.count {b : Backlog} {capacity : Nat} {source : String} {items : List Item}
    (h : b.Holds capacity source items) (size : Nat) : (b.count size).Holds capacity source items :=
  h

end Backlog

theorem Outbox.toList_of_push {o o' : Outbox} {b : Batch} (h : o.push b = .ok o') :
    o'.queued.toList = o.queued.toList ++ [b] := by
  unfold Outbox.push at h
  split at h
  · contradiction
  · split at h
    · contradiction
    · cases h
      exact Fifo.toList_push _ _

theorem Outbox.make_eq_ok_iff {capacity : Nat} {o : Outbox} :
    Outbox.make capacity = .ok o ↔
      (1 ≤ capacity ∧ capacity ≤ Outbox.maxCapacity) ∧ ⟨capacity, Fifo.empty, true, true⟩ = o := by
  unfold Outbox.make
  by_cases hlow : capacity = 0
  · simp [hlow]
  · by_cases hhigh : Outbox.maxCapacity < capacity
    · have hnot : ¬ capacity ≤ Outbox.maxCapacity := by omega
      simp [hlow, hhigh, hnot]
    · have hroom : 1 ≤ capacity ∧ capacity ≤ Outbox.maxCapacity := by omega
      rw [if_neg hlow, if_neg hhigh, Except.ok.injEq, and_iff_right hroom]

namespace Buffer

theorem make_eq_ok_iff {capacity outboxCapacity : Nat} {source : String} {b : Buffer} :
    make capacity source outboxCapacity = .ok b ↔
      (1 ≤ outboxCapacity ∧ outboxCapacity ≤ Outbox.maxCapacity) ∧
        ⟨some (Backlog.make capacity source), ⟨outboxCapacity, Fifo.empty, true, true⟩⟩ = b := by
  unfold make
  cases ho : Outbox.make outboxCapacity with
  | error e =>
    have hroom : ¬ (1 ≤ outboxCapacity ∧ outboxCapacity ≤ Outbox.maxCapacity) := by
      intro hroom
      rw [Outbox.make_eq_ok_iff.2 ⟨hroom, rfl⟩] at ho
      contradiction
    simp [Except.map, hroom]
  | ok o =>
    obtain ⟨hroom, rfl⟩ := Outbox.make_eq_ok_iff.1 ho
    simp [Except.map, hroom]

/-- Whoever takes a batch out gets the oldest one and leaves the backlog alone. -/
theorem fields_of_receive {b b' : Buffer} {batch : Batch} (h : b.receive = .ok (batch, b')) :
    b'.backlog = b.backlog ∧
    b.outbox.queued.toList = batch :: b'.outbox.queued.toList := by
  cases hp : b.outbox.queued.pop? with
  | none => simp [Buffer.receive, Outbox.take, hp, Except.map] at h
  | some r =>
    obtain ⟨oldest, rest⟩ := r
    obtain ⟨rfl, rfl⟩ : oldest = batch ∧
        { b with outbox := { b.outbox with queued := rest } } = b' := by
      simpa [Buffer.receive, Outbox.take, hp, Except.map] using h
    exact ⟨rfl, Fifo.toList_pop? hp⟩

/-- Steps of those who record items, of calls to prepare, and of those who own an end. Whoever
records makes the same step, whichever handle it uses. A call to prepare takes two steps, and others
may be made in between. -/
inductive Move where
  | record (i : Item)
  /-- A call to prepare takes what waits, and makes a batch of it. -/
  | gather (stamp : Stamp) (endpoint : Option String)
  /-- The call that made the batch at this place hands it over, and returns. -/
  | handOver (place : Nat)
  | receive
  | closeOutbox
  | drop

/-- A buffer in use. -/
structure Session where
  buffer : Buffer
  /-- Batches made by calls to prepare that have not returned. -/
  held : List Batch
  /-- All batches ever made. -/
  made : List Batch
  /-- Batches taken out of the outbox. -/
  taken : List Batch

namespace Session

/-- What comes of a batch that is handed over. If the outbox turns it down, it is gone. -/
def push (b : Buffer) (batch : Batch) : Buffer :=
  match b.outbox.push batch with
  | .ok o => ⟨b.backlog.map (·.count batch.size), o⟩
  | .error _ => b

def step (s : Session) : Move → Session
  | .record i =>
    match s.buffer.record i with
    | .ok b => { s with buffer := b }
    | .error _ => s
  | .gather stamp endpoint =>
    match s.buffer.backlog with
    | some l =>
      { s with
        buffer := { s.buffer with backlog := some l.drain.2.1 }
        held := s.held ++ [l.batch stamp endpoint]
        made := s.made ++ [l.batch stamp endpoint] }
    | none => s
  | .handOver place =>
    match s.held[place]? with
    | some batch => { s with buffer := push s.buffer batch, held := s.held.eraseIdx place }
    | none => s
  | .receive =>
    match s.buffer.receive with
    | .ok (batch, b) => { s with buffer := b, taken := s.taken ++ [batch] }
    | .error _ => s
  | .closeOutbox => { s with buffer := s.buffer.closeOutbox }
  | .drop => { s with buffer := s.buffer.drop }

/-- A buffer after some moves, in the order in which they were made. -/
def run (b : Buffer) (moves : List Move) : Session := moves.foldl step ⟨b, [], [], []⟩

end Session

/-- The item that a move records. -/
def Move.item? : Move → Option Item
  | .record i => some i
  | _ => none

/-- All items that were to be recorded. -/
def recorded (moves : List Move) : List Item := moves.filterMap Move.item?

@[simp] theorem recorded_snoc (moves : List Move) (m : Move) :
    recorded (moves ++ [m]) = recorded moves ++ m.item?.toList := by
  cases h : m.item? <;> simp [recorded, h]

/-- What has been recorded since the last attempt to prepare, after one more move. -/
def Move.gathers (items : List Item) : Move → List Item
  | .record i => items ++ [i]
  | .gather _ _ => []
  | _ => items

/-- The items recorded since the last attempt to prepare. -/
def since (moves : List Move) : List Item := moves.foldl Move.gathers []

@[simp] theorem since_snoc (moves : List Move) (m : Move) :
    since (moves ++ [m]) = m.gathers (since moves) := by
  simp [since]

namespace Session

@[simp] theorem run_snoc (b : Buffer) (moves : List Move) (m : Move) :
    run b (moves ++ [m]) = (run b moves).step m := by
  simp [run]

/-- What is true of a buffer in use after the given moves: what waits, what its batches hold, and
that each batch is in one place at most. -/
structure Intact (capacity : Nat) (source : String) (moves : List Move) (s : Session) : Prop where
  alive : .drop ∉ moves → ∃ l, s.buffer.backlog = some l
  holds : ∀ l, s.buffer.backlog = some l → l.Holds capacity source (since moves)
  apart : ∃ before, recorded moves = before ++ since moves ∧
    (s.made.flatMap Batch.items).Sublist before
  once : (s.taken ++ s.buffer.outbox.queued.toList ++ s.held).Subperm s.made

theorem record_cases (s : Session) (i : Item) :
    (s.buffer.backlog = none ∧ s.step (.record i) = s) ∨
    ∃ l, s.buffer.backlog = some l ∧
      s.step (.record i) = { s with buffer := ⟨some (l.record i), s.buffer.outbox⟩ } := by
  cases hl : s.buffer.backlog with
  | none => exact .inl ⟨rfl, by simp [step, Buffer.record, hl]⟩
  | some l => exact .inr ⟨l, rfl, by simp [step, Buffer.record, hl]⟩

theorem gather_cases (s : Session) (stamp : Stamp) (endpoint : Option String) :
    (s.buffer.backlog = none ∧ s.step (.gather stamp endpoint) = s) ∨
    ∃ l, s.buffer.backlog = some l ∧ s.step (.gather stamp endpoint) =
      { s with
        buffer := ⟨some l.drain.2.1, s.buffer.outbox⟩
        held := s.held ++ [l.batch stamp endpoint]
        made := s.made ++ [l.batch stamp endpoint] } := by
  cases hl : s.buffer.backlog with
  | none => exact .inl ⟨rfl, by simp [step, hl]⟩
  | some l => exact .inr ⟨l, rfl, by simp [step, hl]⟩

theorem receive_cases (s : Session) :
    s.step .receive = s ∨
    ∃ batch b, b.backlog = s.buffer.backlog ∧
      s.buffer.outbox.queued.toList = batch :: b.outbox.queued.toList ∧
      s.step .receive = { s with buffer := b, taken := s.taken ++ [batch] } := by
  cases hr : s.buffer.receive with
  | error e => exact .inl (by simp [step, hr])
  | ok r =>
    obtain ⟨batch, b⟩ := r
    obtain ⟨hl, hq⟩ := fields_of_receive hr
    exact .inr ⟨batch, b, hl, hq, by simp [step, hr]⟩

theorem Intact.of_make {capacity outboxCapacity : Nat} {source : String} {b : Buffer}
    (h : Buffer.make capacity source outboxCapacity = .ok b) :
    Intact capacity source [] (run b []) := by
  obtain ⟨-, rfl⟩ := make_eq_ok_iff.1 h
  refine ⟨fun _ => ⟨_, rfl⟩, ?_, ⟨[], rfl, List.Sublist.refl _⟩, ?_⟩
  · intro l hl
    obtain rfl := Option.some.inj hl
    exact ⟨rfl, rfl, by simp [Backlog.make, since]⟩
  · exact List.Subperm.refl []

theorem Intact.record {capacity : Nat} {source : String} {moves : List Move} {s : Session}
    (h : Intact capacity source moves s) (i : Item) :
    Intact capacity source (moves ++ [.record i]) (s.step (.record i)) := by
  obtain ⟨before, hbefore, hmade⟩ := h.apart
  have hapart : recorded (moves ++ [.record i]) = before ++ since (moves ++ [.record i]) := by
    simp [hbefore, Move.item?, Move.gathers]
  obtain ⟨hl, hs⟩ | ⟨l, hl, hs⟩ := s.record_cases i
  · rw [hs]
    refine ⟨fun hd => h.alive (by simpa using hd), ?_, ⟨before, hapart, hmade⟩, h.once⟩
    intro l hl'
    rw [hl] at hl'
    contradiction
  · rw [hs]
    refine ⟨fun _ => ⟨_, rfl⟩, ?_, ⟨before, hapart, hmade⟩, h.once⟩
    intro l' hl'
    obtain rfl := Option.some.inj hl'
    rw [since_snoc]
    exact (h.holds l hl).record i

theorem Intact.gather {capacity : Nat} {source : String} {moves : List Move} {s : Session}
    (h : Intact capacity source moves s) (stamp : Stamp) (endpoint : Option String) :
    Intact capacity source (moves ++ [.gather stamp endpoint])
      (s.step (.gather stamp endpoint)) := by
  obtain ⟨before, hbefore, hmade⟩ := h.apart
  have hitems : recorded (moves ++ [.gather stamp endpoint]) =
      (before ++ since moves) ++ since (moves ++ [.gather stamp endpoint]) := by
    simp [hbefore, Move.item?, Move.gathers]
  obtain ⟨hl, hs⟩ | ⟨l, hl, hs⟩ := s.gather_cases stamp endpoint
  · rw [hs]
    refine ⟨fun hd => h.alive (by simpa using hd), ?_, ⟨_, hitems, ?_⟩, h.once⟩
    · intro l hl'
      rw [hl] at hl'
      contradiction
    · exact hmade.trans (List.sublist_append_left before (since moves))
  · rw [hs]
    refine ⟨fun _ => ⟨_, rfl⟩, ?_, ⟨_, hitems, ?_⟩, ?_⟩
    · intro l' hl'
      obtain rfl := Option.some.inj hl'
      simpa [Move.gathers] using (h.holds l hl).drain
    · have hbatch : (l.batch stamp endpoint).items.Sublist (since moves) := by
        rw [(h.holds l hl).batch]
        exact List.drop_sublist _ _
      simpa using hmade.append hbatch
    · have hmore := h.once.append (List.Subperm.refl [l.batch stamp endpoint])
      simpa using hmore

/-- A move that neither records nor gathers leaves what waits and what was made. -/
theorem Intact.of_other {capacity : Nat} {source : String} {moves : List Move} {s t : Session}
    (h : Intact capacity source moves s) {m : Move} (hi : m.item? = none)
    (hg : m.gathers (since moves) = since moves) (hmade : t.made = s.made)
    (halive : m ≠ .drop → ∀ l, s.buffer.backlog = some l → ∃ l', t.buffer.backlog = some l')
    (hholds : ∀ l', t.buffer.backlog = some l' → ∃ l, s.buffer.backlog = some l ∧
      (l.Holds capacity source (since moves) → l'.Holds capacity source (since moves)))
    (hplaces : (t.taken ++ t.buffer.outbox.queued.toList ++ t.held).Subperm
      (s.taken ++ s.buffer.outbox.queued.toList ++ s.held)) :
    Intact capacity source (moves ++ [m]) t := by
  refine ⟨?_, ?_, ?_, ?_⟩
  · intro hd
    obtain ⟨hd, hm⟩ : .drop ∉ moves ∧ m ≠ .drop := by
      refine ⟨fun hd' => hd (by simp [hd']), ?_⟩
      rintro rfl
      exact hd (by simp)
    obtain ⟨l, hl⟩ := h.alive hd
    exact halive hm l hl
  · intro l' hl'
    obtain ⟨l, hl, hkeep⟩ := hholds l' hl'
    rw [since_snoc, hg]
    exact hkeep (h.holds l hl)
  · rw [recorded_snoc, hi, since_snoc, hg, hmade, Option.toList_none, List.append_nil]
    exact h.apart
  · rw [hmade]
    exact hplaces.trans h.once

theorem Intact.handOver {capacity : Nat} {source : String} {moves : List Move} {s : Session}
    (h : Intact capacity source moves s) (place : Nat) :
    Intact capacity source (moves ++ [.handOver place]) (s.step (.handOver place)) := by
  cases hb : s.held[place]? with
  | none =>
    have hs : s.step (.handOver place) = s := by simp [step, hb]
    rw [hs]
    exact h.of_other rfl rfl rfl (fun _ l hl => ⟨l, hl⟩) (fun l hl => ⟨l, hl, id⟩)
      (List.Subperm.refl _)
  | some batch =>
    have hs : s.step (.handOver place) =
        { s with buffer := push s.buffer batch, held := s.held.eraseIdx place } := by
      simp [step, hb]
    rw [hs]
    obtain ⟨hlt, rfl⟩ := List.getElem?_eq_some_iff.1 hb
    cases ho : s.buffer.outbox.push s.held[place] with
    | error e =>
      have hp : push s.buffer s.held[place] = s.buffer := by simp [push, ho]
      rw [hp]
      refine h.of_other rfl rfl rfl (fun _ l hl => ⟨l, hl⟩) (fun l hl => ⟨l, hl, id⟩) ?_
      exact ((List.Sublist.refl _).append (List.eraseIdx_sublist _ _)).subperm
    | ok o =>
      have hp : push s.buffer s.held[place] =
          ⟨s.buffer.backlog.map (·.count s.held[place].size), o⟩ := by simp [push, ho]
      rw [hp]
      refine h.of_other rfl rfl rfl ?_ ?_ ?_
      · intro _ l hl
        exact ⟨l.count s.held[place].size, by simp [hl]⟩
      · intro l' hl'
        obtain ⟨l, hl, rfl⟩ := Option.map_eq_some_iff.1 hl'
        exact ⟨l, hl, fun hk => hk.count _⟩
      · have hperm : (s.held[place] :: s.held.eraseIdx place).Perm s.held :=
          List.getElem_cons_eraseIdx_perm hlt
        have hall := hperm.append_left (s.taken ++ s.buffer.outbox.queued.toList)
        rw [Outbox.toList_of_push ho]
        simpa using hall.subperm

theorem Intact.receive {capacity : Nat} {source : String} {moves : List Move} {s : Session}
    (h : Intact capacity source moves s) :
    Intact capacity source (moves ++ [.receive]) (s.step .receive) := by
  obtain hs | ⟨batch, b, hl, hq, hs⟩ := s.receive_cases
  · rw [hs]
    exact h.of_other rfl rfl rfl (fun _ l hl => ⟨l, hl⟩) (fun l hl => ⟨l, hl, id⟩)
      (List.Subperm.refl _)
  · rw [hs]
    refine h.of_other rfl rfl rfl ?_ ?_ ?_
    · intro _ l hl'
      exact ⟨l, hl.trans hl'⟩
    · intro l hl'
      exact ⟨l, hl.symm.trans hl', id⟩
    · simp [hq, List.Subperm.refl]

theorem Intact.closeOutbox {capacity : Nat} {source : String} {moves : List Move} {s : Session}
    (h : Intact capacity source moves s) :
    Intact capacity source (moves ++ [.closeOutbox]) (s.step .closeOutbox) := by
  refine h.of_other rfl rfl rfl (fun _ l hl => ⟨l, hl⟩) (fun l hl => ⟨l, hl, id⟩) ?_
  have hqueued : (s.step .closeOutbox).buffer.outbox.queued = Fifo.empty := rfl
  rw [hqueued, Fifo.toList_empty, List.append_nil]
  exact ((List.sublist_append_left _ _).append (List.Sublist.refl _)).subperm

theorem Intact.drop {capacity : Nat} {source : String} {moves : List Move} {s : Session}
    (h : Intact capacity source moves s) :
    Intact capacity source (moves ++ [.drop]) (s.step .drop) := by
  refine h.of_other rfl rfl rfl (fun hm => absurd rfl hm) ?_ (List.Subperm.refl _)
  intro l hl
  contradiction

theorem Intact.step {capacity : Nat} {source : String} {moves : List Move} {s : Session}
    (h : Intact capacity source moves s) (m : Move) :
    Intact capacity source (moves ++ [m]) (s.step m) := by
  cases m with
  | record i => exact h.record i
  | gather stamp endpoint => exact h.gather stamp endpoint
  | handOver place => exact h.handOver place
  | receive => exact h.receive
  | closeOutbox => exact h.closeOutbox
  | drop => exact h.drop

theorem run_intact {capacity outboxCapacity : Nat} {source : String} {b : Buffer}
    (h : Buffer.make capacity source outboxCapacity = .ok b) (moves : List Move) :
    Intact capacity source moves (run b moves) := by
  induction moves using List.reverseRecOn with
  | nil => exact Intact.of_make h
  | append_singleton moves m ih =>
    rw [run_snoc]
    exact ih.step m

/-- A call to prepare that nobody comes between gathers and hands over at once. -/
theorem prepare_eq_steps {s : Session} {l : Backlog} (hl : s.buffer.backlog = some l)
    (stamp : Stamp) (endpoint : Option String) :
    (s.buffer.prepare stamp endpoint).2.1 =
      ((s.step (.gather stamp endpoint)).step (.handOver s.held.length)).buffer := by
  have hsteps : ((s.step (.gather stamp endpoint)).step (.handOver s.held.length)).buffer =
      push { s.buffer with backlog := some l.drain.2.1 } (l.batch stamp endpoint) := by
    simp [step, hl]
  rw [hsteps]
  simp only [Buffer.prepare, hl, Backlog.prepare_eq, push]
  cases s.buffer.outbox.push (l.batch stamp endpoint) <;> rfl

/-- What waits in a buffer, and what the next batch will hold, are the last of the items recorded
since the last attempt to prepare, as many as there is room for. No item comes into two batches, and
no batch is in two places. -/
theorem waiting_eq {capacity outboxCapacity : Nat} {source : String} {b : Buffer}
    (h : Buffer.make capacity source outboxCapacity = .ok b) (moves : List Move) :
    (.drop ∉ moves → ∃ l, (run b moves).buffer.backlog = some l ∧
      l.waiting.toList = (since moves).rtake (max capacity 1) ∧
      l.waiting.size ≤ max capacity 1 ∧
      ∀ stamp endpoint,
        ((run b moves).step (.gather stamp endpoint)).made = (run b moves).made ++
          [⟨stamp, source, (since moves).rtake (max capacity 1), endpoint⟩] ∧
        ((run b moves).step (.gather stamp endpoint)).held = (run b moves).held ++
          [⟨stamp, source, (since moves).rtake (max capacity 1), endpoint⟩] ∧
        ((run b moves).buffer.prepare stamp endpoint).2.1 =
          (((run b moves).step (.gather stamp endpoint)).step
            (.handOver (run b moves).held.length)).buffer) ∧
    (∀ m, (∀ stamp endpoint, m ≠ .gather stamp endpoint) →
      ((run b moves).step m).made = (run b moves).made) ∧
    ((run b moves).made.flatMap Batch.items ++
      ((run b moves).buffer.backlog.map fun l => l.waiting.toList).getD []).Sublist
        (recorded moves) ∧
    ((run b moves).taken ++ (run b moves).buffer.outbox.queued.toList ++
      (run b moves).held).Subperm (run b moves).made := by
  have hi := run_intact h moves
  refine ⟨?_, ?_, ?_, hi.once⟩
  · intro hd
    obtain ⟨l, hl⟩ := hi.alive hd
    have hk := hi.holds l hl
    refine ⟨l, hl, hk.2.2, ?_, ?_⟩
    · rw [← Fifo.length_toList, hk.2.2, List.rtake, List.length_drop]
      omega
    · intro stamp endpoint
      have hb := hk.batch stamp endpoint
      exact ⟨by simp [step, hl, hb], by simp [step, hl, hb], prepare_eq_steps hl stamp endpoint⟩
  · intro m hm
    cases m with
    | gather stamp endpoint => exact absurd rfl (hm stamp endpoint)
    | record i => simp only [step]; split <;> rfl
    | handOver place => simp only [step]; split <;> rfl
    | receive => simp only [step]; split <;> rfl
    | closeOutbox => rfl
    | drop => rfl
  · obtain ⟨before, hbefore, hmade⟩ := hi.apart
    rw [hbefore]
    refine hmade.append ?_
    cases hl : (run b moves).buffer.backlog with
    | none => simp
    | some l =>
      have hw := (hi.holds l hl).2.2
      simp only [Option.map_some, Option.getD_some, hw]
      exact List.drop_sublist _ _

/-- Of three items recorded where there is room for two, the last two wait. -/
theorem waiting_eq_of_overflow :
    let item (name : String) : Item := .make .blank .event name
    let moves : List Move := [.gather .blank none, .record (item "a"), .record (item "b"),
      .record (item "c")]
    ∃ b, Buffer.make 2 "agent" 1 = .ok b ∧ ∃ l, (run b moves).buffer.backlog = some l ∧
      l.waiting.toList = [item "b", item "c"] := by
  intro item moves
  have hb : Buffer.make 2 "agent" 1 =
      .ok ⟨some (Backlog.make 2 "agent"), ⟨1, Fifo.empty, true, true⟩⟩ := rfl
  obtain ⟨l, hl, hw, -⟩ := (waiting_eq hb moves).1 (by simp [moves])
  exact ⟨_, hb, l, hl, hw⟩

end Session

end Buffer

end LiveTelemetry
