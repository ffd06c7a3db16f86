import Mathlib.Algebra.GroupWithZero.Nat
import LiveTelemetry.Proofs.Buffer.Loss
/-!
What a buffer counts and what it reports. Main statement: its counters tell the items recorded, the
items given up, and the batches handed over, and each item given up is in one warning or is still to
be reported.
-/
namespace LiveTelemetry

open Telemetry (Item Batch Stamp)

/-- How many items a notice reports as given up. -/
def Notice.overflow? : Notice → Option Nat
  | overflow dropped _ => some dropped
  | _ => none

namespace Backlog

theorem record_evicted (b : Backlog) (i : Item) :
    (b.record i).evicted = b.evicted + b.leaving.length := by
  rw [length_leaving]
  unfold record
  by_cases hfull : b.limit ≤ b.waiting.size
  · simp [hfull, evict, add]
  · simp [hfull, add]

/-- Taking what waits reports the items given up, if there are any. -/
theorem overflows_drain (b : Backlog) :
    b.drain.2.2.filterMap Notice.overflow? = if b.evicted = 0 then [] else [b.evicted] := by
  by_cases h : b.evicted = 0
  · simp [drain, h]
  · simp [drain, h, Notice.overflow?]

end Backlog

namespace Buffer

/-- Whether a move begins an attempt to prepare. -/
def Move.attempts : Move → Bool
  | .gather _ _ => true
  | _ => false

namespace Session

/-- What a move records, if that goes well. -/
def records (s : Session) : Move → List Item
  | .record i =>
    match s.buffer.record i with
    | .ok _ => [i]
    | .error _ => []
  | _ => []

/-- The item that a move gives up. -/
def evicts (s : Session) : Move → List Item
  | .record _ => (s.buffer.backlog.map Backlog.leaving).getD []
  | _ => []

/-- The batch that the outbox takes with a move. -/
def hands (s : Session) : Move → List Batch
  | .handOver place =>
    match s.held[place]? with
    | some batch =>
      match s.buffer.outbox.push batch with
      | .ok _ => [batch]
      | .error _ => []
    | none => []
  | _ => []

/-- What the log is told with a move. -/
def logs (s : Session) : Move → List Notice
  | .gather _ _ => (s.buffer.backlog.map fun l => l.drain.2.2).getD []
  | .handOver place =>
    (s.hands (.handOver place)).map fun batch => .prepared batch.size batch.endpoint
  | _ => []

/-- What became of the items and the batches of a buffer in use. -/
structure Ledger where
  recorded : List Item
  evicted : List Item
  /-- Items given up since the last attempt to prepare. -/
  lately : List Item
  handed : List Batch
  /-- The numbers in the warnings. -/
  warned : List Nat

namespace Ledger

def empty : Ledger := ⟨[], [], [], [], []⟩

def note (g : Ledger) (s : Session) (m : Move) : Ledger where
  recorded := g.recorded ++ s.records m
  evicted := g.evicted ++ s.evicts m
  lately := if m.attempts then [] else g.lately ++ s.evicts m
  handed := g.handed ++ s.hands m
  warned := g.warned ++ (s.logs m).filterMap Notice.overflow?

end Ledger

def ledger (b : Buffer) (moves : List Move) : Ledger := noted Ledger.note Ledger.empty b moves

@[simp] theorem ledger_snoc (b : Buffer) (moves : List Move) (m : Move) :
    ledger b (moves ++ [m]) = (ledger b moves).note (run b moves) m :=
  noted_snoc _ _ _ _ _

/-- What a move makes of the backlog. -/
inductive Alters (s : Session) (l : Backlog) : Move → Backlog → Prop
  | record (i : Item) : Alters s l (.record i) (l.record i)
  | gather (stamp : Stamp) (endpoint : Option String) :
    Alters s l (.gather stamp endpoint) l.drain.2.1
  | handOver {place : Nat} {batch : Batch} (hands : s.hands (.handOver place) = [batch]) :
    Alters s l (.handOver place) (l.count batch.size)
  | other {m : Move} (item : m.item? = none) (attempt : m.attempts = false)
    (hands : s.hands m = []) : Alters s l m l

theorem alters_of_step {s : Session} {m : Move} {l' : Backlog}
    (h : (s.step m).buffer.backlog = some l') :
    ∃ l, s.buffer.backlog = some l ∧ s.Alters l m l' := by
  cases m with
  | record i =>
    obtain ⟨hl, hs⟩ | ⟨l, hl, hs⟩ := s.record_cases i
    · rw [hs, hl] at h
      contradiction
    · rw [hs] at h
      obtain rfl := Option.some.inj h
      exact ⟨l, hl, .record i⟩
  | gather stamp endpoint =>
    obtain ⟨hl, hs⟩ | ⟨l, hl, hs⟩ := s.gather_cases stamp endpoint
    · rw [hs, hl] at h
      contradiction
    · rw [hs] at h
      obtain rfl := Option.some.inj h
      exact ⟨l, hl, .gather stamp endpoint⟩
  | handOver place =>
    cases hb : s.held[place]? with
    | none =>
      have hl : s.buffer.backlog = some l' := by simpa [step, hb] using h
      exact ⟨l', hl, .other rfl rfl (by simp [hands, hb])⟩
    | some batch =>
      obtain ⟨o, ho, -, hs⟩ | ⟨e, ho, -, hs⟩ := handOver_cases hb
      · rw [hs] at h
        obtain ⟨l, hl, rfl⟩ := Option.map_eq_some_iff.1 h
        exact ⟨l, hl, .handOver (by simp [hands, hb, ho])⟩
      · rw [hs] at h
        exact ⟨l', h, .other rfl rfl (by simp [hands, hb, ho])⟩
  | receive =>
    obtain hs | ⟨batch, b, hl, -, hs⟩ := s.receive_cases
    · rw [hs] at h
      exact ⟨l', h, .other rfl rfl rfl⟩
    · rw [hs] at h
      exact ⟨l', hl.symm.trans h, .other rfl rfl rfl⟩
  | closeOutbox => exact ⟨l', h, .other rfl rfl rfl⟩
  | drop => cases h

/-- A backlog counts what a ledger lists. -/
structure Counted (g : Ledger) (l : Backlog) : Prop where
  received : l.tally.received = g.recorded.length
  dropped : l.tally.dropped = g.evicted.length
  prepared : l.tally.prepared = (g.handed.flatMap Batch.items).length
  batches : l.tally.batches = g.handed.length
  lately : l.evicted = g.lately.length
  warned : g.warned.sum + l.evicted = l.tally.dropped

theorem Counted.record {g : Ledger} {s : Session} {l : Backlog} (h : Counted g l)
    (hl : s.buffer.backlog = some l) (i : Item) :
    Counted (g.note s (.record i)) (l.record i) := by
  have hrecords : s.records (.record i) = [i] := by simp [records, Buffer.record, hl]
  have hevicts : s.evicts (.record i) = l.leaving := by simp [evicts, hl]
  have htally := l.record_tally i
  rw [← l.length_leaving] at htally
  have hevicted := l.record_evicted i
  refine ⟨?_, ?_, ?_, ?_, ?_, ?_⟩
  · simp [htally, Ledger.note, hrecords, h.received]
  · simp [htally, Ledger.note, hevicts, h.dropped]
  · simp [htally, Ledger.note, hands, h.prepared]
  · simp [htally, Ledger.note, hands, h.batches]
  · simp [hevicted, Ledger.note, Move.attempts, hevicts, h.lately]
  · have hwarned := h.warned
    simp only [htally, hevicted, Ledger.note, logs, List.filterMap_nil, List.append_nil]
    omega

theorem Counted.gather {g : Ledger} {s : Session} {l : Backlog} (h : Counted g l)
    (hl : s.buffer.backlog = some l) (stamp : Stamp) (endpoint : Option String) :
    Counted (g.note s (.gather stamp endpoint)) l.drain.2.1 := by
  have hlogs : s.logs (.gather stamp endpoint) = l.drain.2.2 := by simp [logs, hl]
  have htally : l.drain.2.1.tally = l.tally := rfl
  refine ⟨?_, ?_, ?_, ?_, rfl, ?_⟩
  · simp [htally, Ledger.note, records, h.received]
  · simp [htally, Ledger.note, evicts, h.dropped]
  · simp [htally, Ledger.note, hands, h.prepared]
  · simp [htally, Ledger.note, hands, h.batches]
  · have hwarned := h.warned
    have hsum : ((l.drain.2.2).filterMap Notice.overflow?).sum = l.evicted := by
      rw [l.overflows_drain]
      split <;> simp [*]
    simp only [Ledger.note, hlogs, List.sum_append, hsum]
    exact hwarned

theorem Counted.handOver {g : Ledger} {s : Session} {l : Backlog} (h : Counted g l) {place : Nat}
    {batch : Batch} (hb : s.hands (.handOver place) = [batch]) :
    Counted (g.note s (.handOver place)) (l.count batch.size) := by
  have hwarned : (s.logs (.handOver place)).filterMap Notice.overflow? = [] := by
    simp [logs, hb, Notice.overflow?]
  refine ⟨?_, ?_, ?_, ?_, ?_, ?_⟩
  · simp [Backlog.count, Ledger.note, records, h.received]
  · simp [Backlog.count, Ledger.note, evicts, h.dropped]
  · simp [Backlog.count, Ledger.note, hb, h.prepared, Batch.size]
  · simp [Backlog.count, Ledger.note, hb, h.batches]
  · simp [Backlog.count, Ledger.note, Move.attempts, evicts, h.lately]
  · simp [Backlog.count, Ledger.note, hwarned, h.warned]

/-- A move that nothing is listed for leaves a ledger. -/
theorem Ledger.note_of_other {s : Session} {m : Move} (hi : m.item? = none)
    (ha : m.attempts = false) (hands : s.hands m = []) (g : Ledger) : g.note s m = g := by
  have hnone : s.records m = [] ∧ s.evicts m = [] ∧ s.logs m = [] := by
    cases m with
    | record i => cases hi
    | gather stamp endpoint => cases ha
    | handOver place => simp [records, evicts, logs, hands]
    | receive => exact ⟨rfl, rfl, rfl⟩
    | closeOutbox => exact ⟨rfl, rfl, rfl⟩
    | drop => exact ⟨rfl, rfl, rfl⟩
  obtain ⟨hr, he, hl⟩ := hnone
  simp [note, hr, he, hl, ha, hands]

theorem run_counted {capacity outboxCapacity : Nat} {source : String} {b : Buffer}
    (h : Buffer.make capacity source outboxCapacity = .ok b) (moves : List Move) {l : Backlog}
    (hl : (run b moves).buffer.backlog = some l) : Counted (ledger b moves) l := by
  -- A buffer that is still there was there before each move, so the last move alters its backlog.
  induction moves using List.reverseRecOn generalizing l with
  | nil =>
    obtain ⟨-, rfl⟩ := make_eq_ok_iff.1 h
    obtain rfl := Option.some.inj hl
    exact ⟨rfl, rfl, rfl, rfl, rfl, rfl⟩
  | append_singleton moves m ih =>
    rw [run_snoc] at hl
    rw [ledger_snoc]
    obtain ⟨l, hbefore, halters⟩ := alters_of_step hl
    have hcounted := ih hbefore
    cases halters with
    | record i => exact hcounted.record hbefore i
    | gather stamp endpoint => exact hcounted.gather hbefore stamp endpoint
    | handOver hands => exact hcounted.handOver hands
    | other item attempt hands =>
      rw [Ledger.note_of_other item attempt hands]
      exact hcounted

/-- Only an attempt to prepare reports items as given up, before its batch is handed over. -/
theorem overflows_of_other {s : Session} {m : Move} (h : m.attempts = false) :
    (s.logs m).filterMap Notice.overflow? = [] := by
  cases m with
  | gather stamp endpoint => cases h
  | handOver place => simp [logs, Notice.overflow?]
  | record i => rfl
  | receive => rfl
  | closeOutbox => rfl
  | drop => rfl

/-- An attempt to prepare that nobody comes between: its outcome and what the log is told. -/
theorem prepare_logs {s : Session} {l : Backlog} (hl : s.buffer.backlog = some l) (stamp : Stamp)
    (endpoint : Option String) :
    let t := s.step (.gather stamp endpoint)
    let x := s.buffer.prepare stamp endpoint
    x.2.2 = s.logs (.gather stamp endpoint) ++ t.logs (.handOver s.held.length) ∧
    (x.1 = some (.ok ()) → t.hands (.handOver s.held.length) = [l.batch stamp endpoint] ∧
      t.refuses (.handOver s.held.length) = []) ∧
    (x.1 ≠ some (.ok ()) → t.hands (.handOver s.held.length) = [] ∧
      t.refuses (.handOver s.held.length) = [l.batch stamp endpoint]) := by
  intro t x
  have ht : t = { s with
      buffer := { s.buffer with backlog := some l.drain.2.1 }
      held := s.held ++ [l.batch stamp endpoint]
      made := s.made ++ [l.batch stamp endpoint] } := by
    simp [t, step, hl]
  rw [ht]
  cases ho : s.buffer.outbox.push (l.batch stamp endpoint) with
  | ok o =>
    have hendpoint : (l.batch stamp endpoint).endpoint = endpoint := rfl
    simp [x, Buffer.prepare, Backlog.prepare_eq, logs, hands, refuses, hl, ho, hendpoint]
  | error e => simp [x, Buffer.prepare, Backlog.prepare_eq, logs, hands, refuses, hl, ho]

/-- The counters of a buffer tell how many items were recorded, how many were given up to make room,
and what the batches hold that the outbox took. Each item recorded is in such a batch, or was given
up, or waits, or an attempt to prepare took it that is under way or failed. An attempt warns of
exactly the items given up since the one before, if there are any, and nothing else warns, so the
warnings and what is still to be reported make up all that were given up. -/
theorem counted_and_reported {capacity outboxCapacity : Nat} {source : String} {b : Buffer}
    (h : Buffer.make capacity source outboxCapacity = .ok b) (moves : List Move) {l : Backlog}
    (hl : (run b moves).buffer.backlog = some l) :
    let s := run b moves
    let g := ledger b moves
    let overflows := if g.lately.isEmpty then [] else [g.lately.length]
    l.tally.received = g.recorded.length ∧
    l.tally.dropped = g.evicted.length ∧
    l.tally.received = l.tally.prepared + l.tally.dropped + l.waiting.size +
      (s.held.flatMap Batch.items).length + ((refused b moves).flatMap Batch.items).length ∧
    l.tally.batches = g.handed.length ∧
    l.tally.prepared = (g.handed.flatMap Batch.items).length ∧
    g.warned.sum + g.lately.length = l.tally.dropped ∧
    (∀ i, ∃ l', s.buffer.record i = .ok ⟨some l', s.buffer.outbox⟩ ∧
      s.records (.record i) = [i] ∧
      s.evicts (.record i) ++ l'.waiting.toList = l.waiting.toList ++ [i]) ∧
    (∀ m, m.attempts = false → (s.logs m).filterMap Notice.overflow? = []) ∧
    ∀ stamp endpoint,
      let t := s.step (.gather stamp endpoint)
      let x := s.buffer.prepare stamp endpoint
      x.2.1 = (t.step (.handOver s.held.length)).buffer ∧
      (t.step (.handOver s.held.length)).held = s.held ∧
      x.2.2 = s.logs (.gather stamp endpoint) ++ t.logs (.handOver s.held.length) ∧
      (s.logs (.gather stamp endpoint)).filterMap Notice.overflow? = overflows ∧
      x.2.2.filterMap Notice.overflow? = overflows ∧
      (x.1 = some (.ok ()) → t.hands (.handOver s.held.length) = [l.batch stamp endpoint] ∧
        t.refuses (.handOver s.held.length) = []) ∧
      (x.1 ≠ some (.ok ()) → t.hands (.handOver s.held.length) = [] ∧
        t.refuses (.handOver s.held.length) = [l.batch stamp endpoint]) := by
  intro s g overflows
  have hc : Counted g l := run_counted h moves hl
  refine ⟨hc.received, hc.dropped, (run_kept h moves).balance l hl, hc.batches, hc.prepared, ?_, ?_,
    fun m hm => overflows_of_other hm, ?_⟩
  · rw [← hc.lately]
    exact hc.warned
  · intro i
    refine ⟨l.record i, ?_, ?_, ?_⟩
    · simp [s, Buffer.record, hl]
    · simp [s, records, Buffer.record, hl]
    · have hevicts : s.evicts (.record i) = l.leaving := by simp [s, evicts, hl]
      rw [hevicts]
      exact l.leaving_append_waiting i
  · intro stamp endpoint t x
    obtain ⟨hlogs, hwent, hfailed⟩ := prepare_logs hl stamp endpoint
    have hoverflows : (s.logs (.gather stamp endpoint)).filterMap Notice.overflow? = overflows := by
      have hdrain : s.logs (.gather stamp endpoint) = l.drain.2.2 := by simp [s, logs, hl]
      rw [hdrain, l.overflows_drain, hc.lately]
      cases hg : g.lately with
      | nil => simp [overflows, hg]
      | cons i items => simp [overflows, hg]
    refine ⟨prepare_eq_steps hl stamp endpoint, ?_, hlogs, hoverflows, ?_, hwent, hfailed⟩
    · have hlast := List.eraseIdx_append_of_length_le (Nat.le_refl s.held.length)
        [l.batch stamp endpoint]
      simpa [t, s, step, hl] using hlast
    · rw [hlogs, List.filterMap_append, hoverflows, overflows_of_other rfl, List.append_nil]

/-- Where two items may wait and one batch may be queued, an item is given up before an attempt that
fails, another one after it, and one is recorded in between its steps. -/
theorem counted_and_reported_of_two_overflows :
    let item (name : String) : Item := .make .blank .event name
    let moves : List Move := [.gather .blank none, .handOver 0, .record (item "a"),
      .record (item "b"), .record (item "c"), .gather .blank none, .record (item "d"), .handOver 0,
      .record (item "e"), .record (item "f")]
    ∃ b l, Buffer.make 2 "agent" 1 = .ok b ∧ (run b moves).buffer.backlog = some l ∧
      l.tally = ⟨6, 0, 2, 1⟩ ∧ (ledger b moves).evicted.map Item.name = ["a", "d"] ∧
      (ledger b moves).warned = [1] ∧ (ledger b moves).lately.map Item.name = ["d"] ∧
      (ledger b moves).warned.sum + (ledger b moves).lately.length = l.tally.dropped ∧
      ((run b moves).buffer.prepare .blank none).2.2.filterMap Notice.overflow? = [1] := by
  intro item moves
  let b : Buffer := ⟨some (Backlog.make 2 "agent"), ⟨1, Fifo.empty, true, true⟩⟩
  have hb : Buffer.make 2 "agent" 1 = .ok b := rfl
  obtain ⟨l, hl⟩ : ∃ l, (run b moves).buffer.backlog = some l := ⟨_, rfl⟩
  have htally : (run b moves).buffer.backlog.map Backlog.tally = some ⟨6, 0, 2, 1⟩ := by
    decide +kernel
  have hevicted : (ledger b moves).evicted.map Item.name = ["a", "d"] := by decide +kernel
  have hwarned : (ledger b moves).warned = [1] := by decide +kernel
  have hlately : (ledger b moves).lately.map Item.name = ["d"] := by decide +kernel
  obtain ⟨-, -, -, -, -, hsum, -, -, hprepare⟩ := counted_and_reported hb moves hl
  obtain ⟨-, -, -, -, hwarns, -⟩ := hprepare .blank none
  have hone : (ledger b moves).lately.length = 1 := by
    rw [← List.length_map Item.name, hlately]
    rfl
  rw [hl] at htally
  refine ⟨b, l, hb, hl, Option.some.inj htally, hevicted, hwarned, hlately, hsum, ?_⟩
  rw [hwarns]
  cases hg : (ledger b moves).lately with
  | nil => simp [hg] at hone
  | cons i items => simpa [hg] using hone

end Session

end Buffer

end LiveTelemetry
