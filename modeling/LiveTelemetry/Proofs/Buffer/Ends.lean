import LiveTelemetry.Proofs.Buffer.Window
/-!
What those who share a buffer can still do once others have left. Main statement: an attempt to
prepare needs somebody who takes batches out and room for one more, a recording needs the buffer
alone, and batches come out in the order in which they went in, also after the buffer is gone.
-/
namespace LiveTelemetry

open Telemetry (Item Batch Stamp)

namespace Outbox

/-- An outbox takes a batch exactly if neither end has left and there is room. -/
theorem push_cases (o : Outbox) (b : Batch) :
    (o.drained = true ∧ o.filled = true ∧ o.queued.size < o.capacity ∧
      o.push b = .ok { o with queued := o.queued.push b }) ∨
    ((o.drained = false ∨ o.filled = false) ∧ o.push b = .error .closed) ∨
    (o.drained = true ∧ o.filled = true ∧ o.capacity ≤ o.queued.size ∧
      o.push b = .error .full) := by
  unfold push
  cases hd : o.drained with
  | false => simp
  | true =>
    cases hf : o.filled with
    | false => simp
    | true =>
      by_cases hroom : o.queued.size < o.capacity
      · refine .inl ⟨rfl, rfl, hroom, ?_⟩
        rw [if_neg (by simp), if_neg (by omega)]
      · refine .inr (.inr ⟨rfl, rfl, by omega, ?_⟩)
        rw [if_neg (by simp), if_pos (by omega)]

theorem take_eq_ok {o : Outbox} {batch : Batch} {rest : List Batch}
    (h : o.queued.toList = batch :: rest) :
    ∃ q : Fifo Batch, q.toList = rest ∧ o.take = .ok (batch, { o with queued := q }) := by
  cases hp : o.queued.pop? with
  | none =>
    have hnil := Fifo.pop?_eq_none.1 hp
    rw [h] at hnil
    contradiction
  | some r =>
    obtain ⟨oldest, q⟩ := r
    have hq := Fifo.toList_pop? hp
    rw [h] at hq
    obtain ⟨rfl, rfl⟩ := List.cons.inj hq
    exact ⟨q, rfl, by simp [take, hp]⟩

end Outbox

namespace Buffer

/-- What somebody may do who has a part in a buffer: those who record have handles, one belongs to
the buffer itself, and one takes batches out. -/
inductive Deal where
  | send (handle : Nat) (i : Item)
  /-- Makes another handle out of one. -/
  | clone (handle : Nat)
  | prepare (stamp : Stamp) (endpoint : Option String)
  | receive
  /-- Whoever takes batches out leaves. -/
  | closeOutbox
  | drop

/-- A buffer and those who deal with it. -/
structure Company where
  buffer : Buffer
  /-- Handles to record with, numbered from zero. -/
  handles : Nat
  /-- Batches of the attempts to prepare that succeeded. -/
  prepared : List Batch
  received : List Batch

namespace Company

/-- A buffer that nobody has used, with the handle it comes with. -/
def start (b : Buffer) : Company := ⟨b, 1, [], []⟩

/-- What comes of a recording with a handle, if there is such a handle. All handles lead to the same
buffer and do not keep it. -/
def record (c : Company) (handle : Nat) (i : Item) : Option (Except Refusal Buffer) :=
  if handle < c.handles then some (c.buffer.record i) else none

def step (c : Company) : Deal → Company
  | .send handle i =>
    match c.record handle i with
    | some (.ok b) => { c with buffer := b }
    | _ => c
  | .clone handle => if handle < c.handles then { c with handles := c.handles + 1 } else c
  | .prepare stamp endpoint =>
    let x := c.buffer.prepare stamp endpoint
    match c.buffer.backlog, x.1 with
    | some l, some (.ok ()) =>
      { c with buffer := x.2.1, prepared := c.prepared ++ [l.batch stamp endpoint] }
    | _, _ => { c with buffer := x.2.1 }
  | .receive =>
    match c.buffer.receive with
    | .ok (batch, b) => { c with buffer := b, received := c.received ++ [batch] }
    | .error _ => c
  | .closeOutbox => { c with buffer := c.buffer.closeOutbox }
  | .drop => { c with buffer := c.buffer.drop }

/-- A buffer and those who deal with it, after some deals in their order. -/
def after (b : Buffer) (deals : List Deal) : Company := deals.foldl step (start b)

@[simp] theorem after_snoc (b : Buffer) (deals : List Deal) (d : Deal) :
    after b (deals ++ [d]) = (after b deals).step d := by
  simp [after]

/-- An attempt to prepare, by what it finds: it queues its batch, or it queues nothing. -/
theorem prepare_cases {b : Buffer} {l : Backlog} (hl : b.backlog = some l) (stamp : Stamp)
    (endpoint : Option String) :
    (b.outbox.drained = true ∧ b.outbox.filled = true ∧ b.outbox.queued.size < b.outbox.capacity ∧
      (b.prepare stamp endpoint).1 = some (.ok ()) ∧
      (b.prepare stamp endpoint).2.1 =
        ⟨some (l.drain.2.1.count (l.batch stamp endpoint).size),
          { b.outbox with queued := b.outbox.queued.push (l.batch stamp endpoint) }⟩) ∨
    ((b.prepare stamp endpoint).2.1 = ⟨some l.drain.2.1, b.outbox⟩ ∧
      (((b.outbox.drained = false ∨ b.outbox.filled = false) ∧
          (b.prepare stamp endpoint).1 = some (.error .closed)) ∨
        (b.outbox.drained = true ∧ b.outbox.filled = true ∧
          b.outbox.capacity ≤ b.outbox.queued.size ∧
          (b.prepare stamp endpoint).1 = some (.error .full)))) := by
  simp only [Buffer.prepare, hl, Backlog.prepare_eq]
  obtain ⟨hd, hf, hroom, hp⟩ | ⟨hgone, hp⟩ | ⟨hd, hf, hfull, hp⟩ :=
    b.outbox.push_cases (l.batch stamp endpoint)
  · rw [hp]
    exact .inl ⟨hd, hf, hroom, rfl, rfl⟩
  · rw [hp]
    exact .inr ⟨rfl, .inl ⟨hgone, rfl⟩⟩
  · rw [hp]
    exact .inr ⟨rfl, .inr ⟨hd, hf, hfull, rfl⟩⟩

theorem step_prepared {c : Company} {l : Backlog} (hl : c.buffer.backlog = some l) {stamp : Stamp}
    {endpoint : Option String} (h : (c.buffer.prepare stamp endpoint).1 = some (.ok ())) :
    c.step (.prepare stamp endpoint) =
      { c with
        buffer := (c.buffer.prepare stamp endpoint).2.1
        prepared := c.prepared ++ [l.batch stamp endpoint] } := by
  simp only [step, hl, h]

theorem step_not_prepared {c : Company} {stamp : Stamp} {endpoint : Option String}
    (h : (c.buffer.prepare stamp endpoint).1 ≠ some (.ok ())) :
    c.step (.prepare stamp endpoint) =
      { c with buffer := (c.buffer.prepare stamp endpoint).2.1 } := by
  simp only [step]
  split
  · exact absurd ‹_› h
  · rfl

/-- Who is still there after some deals, and where the batches are. -/
structure Attended (outboxCapacity : Nat) (deals : List Deal) (c : Company) : Prop where
  backlog : .drop ∉ deals ↔ ∃ l, c.buffer.backlog = some l
  filled : .drop ∉ deals ↔ c.buffer.outbox.filled = true
  drained : .closeOutbox ∉ deals ↔ c.buffer.outbox.drained = true
  room : c.buffer.outbox.capacity = outboxCapacity
  order : c.received <+: c.prepared
  whole : .closeOutbox ∉ deals → c.prepared = c.received ++ c.buffer.outbox.queued.toList
  /-- What is queued when nobody takes batches out any more is lost. -/
  emptied : .closeOutbox ∈ deals → c.buffer.outbox.queued.toList = []
  handles : 0 < c.handles

theorem Attended.start (capacity outboxCapacity : Nat) (source : String) :
    Attended outboxCapacity []
      (start ⟨some (Backlog.make capacity source), ⟨outboxCapacity, Fifo.empty, true, true⟩⟩) where
  backlog := ⟨fun _ => ⟨_, rfl⟩, fun _ => List.not_mem_nil⟩
  filled := ⟨fun _ => rfl, fun _ => List.not_mem_nil⟩
  drained := ⟨fun _ => rfl, fun _ => List.not_mem_nil⟩
  room := rfl
  order := List.prefix_refl []
  whole _ := rfl
  emptied _ := rfl
  handles := Nat.one_pos

section

variable {outboxCapacity : Nat} {deals : List Deal} {c d : Company}

/-- A deal with which nobody leaves and no batch moves. -/
theorem Attended.of_quiet (h : Attended outboxCapacity deals c) {deal : Deal}
    (stays : deal ≠ .drop) (reads : deal ≠ .closeOutbox)
    (backlog : (∃ l, d.buffer.backlog = some l) ↔ ∃ l, c.buffer.backlog = some l)
    (outbox : d.buffer.outbox = c.buffer.outbox) (prepared : d.prepared = c.prepared)
    (received : d.received = c.received) (handles : c.handles ≤ d.handles) :
    Attended outboxCapacity (deals ++ [deal]) d := by
  have hdrop : .drop ∉ deals ++ [deal] ↔ .drop ∉ deals := by
    simp [Ne.symm stays]
  have hclose : .closeOutbox ∉ deals ++ [deal] ↔ .closeOutbox ∉ deals := by
    simp [Ne.symm reads]
  refine ⟨?_, ?_, ?_, ?_, ?_, ?_, ?_, Nat.lt_of_lt_of_le h.handles handles⟩
  · rw [hdrop, backlog]
    exact h.backlog
  · rw [hdrop, outbox]
    exact h.filled
  · rw [hclose, outbox]
    exact h.drained
  · rw [outbox]
    exact h.room
  · rw [prepared, received]
    exact h.order
  · rw [hclose, prepared, received, outbox]
    exact h.whole
  · rw [outbox]
    exact fun hc => h.emptied (Classical.not_not.1 fun hn => hclose.2 hn hc)

theorem Attended.send (h : Attended outboxCapacity deals c) (handle : Nat) (i : Item) :
    Attended outboxCapacity (deals ++ [.send handle i]) (c.step (.send handle i)) := by
  cases hl : c.buffer.backlog with
  | none =>
    have hs : c.step (.send handle i) = c := by
      by_cases hh : handle < c.handles <;> simp [step, record, hh, Buffer.record, hl]
    rw [hs]
    exact h.of_quiet (by simp) (by simp) Iff.rfl rfl rfl rfl (Nat.le_refl _)
  | some l =>
    by_cases hh : handle < c.handles
    · have hs : c.step (.send handle i) =
          { c with buffer := ⟨some (l.record i), c.buffer.outbox⟩ } := by
        simp [step, record, hh, Buffer.record, hl]
      rw [hs]
      exact h.of_quiet (by simp) (by simp) (by simp [hl]) rfl rfl rfl (Nat.le_refl _)
    · have hs : c.step (.send handle i) = c := by simp [step, record, hh]
      rw [hs]
      exact h.of_quiet (by simp) (by simp) Iff.rfl rfl rfl rfl (Nat.le_refl _)

theorem Attended.clone (h : Attended outboxCapacity deals c) (handle : Nat) :
    Attended outboxCapacity (deals ++ [.clone handle]) (c.step (.clone handle)) := by
  by_cases hh : handle < c.handles
  · have hs : c.step (.clone handle) = { c with handles := c.handles + 1 } := by simp [step, hh]
    rw [hs]
    exact h.of_quiet (by simp) (by simp) Iff.rfl rfl rfl rfl (Nat.le_succ _)
  · have hs : c.step (.clone handle) = c := by simp [step, hh]
    rw [hs]
    exact h.of_quiet (by simp) (by simp) Iff.rfl rfl rfl rfl (Nat.le_refl _)

theorem Attended.prepare (h : Attended outboxCapacity deals c) (stamp : Stamp)
    (endpoint : Option String) :
    Attended outboxCapacity (deals ++ [.prepare stamp endpoint])
      (c.step (.prepare stamp endpoint)) := by
  cases hl : c.buffer.backlog with
  | none =>
    have hs : c.step (.prepare stamp endpoint) = c := by simp [step, Buffer.prepare, hl]
    rw [hs]
    exact h.of_quiet (by simp) (by simp) Iff.rfl rfl rfl rfl (Nat.le_refl _)
  | some l =>
    obtain ⟨hd, hf, -, hok, hb⟩ | ⟨hb, hwhy⟩ := prepare_cases hl stamp endpoint
    · rw [step_prepared hl hok, hb]
      have hopen : .closeOutbox ∉ deals := h.drained.2 hd
      have hstays : .drop ∉ deals := h.filled.2 hf
      refine ⟨?_, ?_, ?_, h.room, ?_, ?_, ?_, h.handles⟩
      · exact ⟨fun _ => ⟨_, rfl⟩, fun _ => by simpa using hstays⟩
      · exact ⟨fun _ => hf, fun _ => by simpa using hstays⟩
      · exact ⟨fun _ => hd, fun _ => by simpa using hopen⟩
      · exact h.order.trans (List.prefix_append _ _)
      · intro _
        rw [h.whole hopen, Fifo.toList_push, List.append_assoc]
      · intro hc
        exact absurd hc (by simpa using hopen)
    · have hfails : (c.buffer.prepare stamp endpoint).1 ≠ some (.ok ()) := by
        obtain ⟨-, he⟩ | ⟨-, -, -, he⟩ := hwhy
        · simp [he]
        · simp [he]
      rw [step_not_prepared hfails, hb]
      exact h.of_quiet (by simp) (by simp) (by simp [hl]) rfl rfl rfl (Nat.le_refl _)

theorem Attended.receive (h : Attended outboxCapacity deals c) :
    Attended outboxCapacity (deals ++ [.receive]) (c.step .receive) := by
  cases hq : c.buffer.outbox.queued.toList with
  | nil =>
    have hp : c.buffer.outbox.queued.pop? = none := Fifo.pop?_eq_none.2 hq
    have hs : c.step .receive = c := by
      simp [step, Buffer.receive, Outbox.take, hp, Except.map]
    rw [hs]
    exact h.of_quiet (by simp) (by simp) Iff.rfl rfl rfl rfl (Nat.le_refl _)
  | cons batch rest =>
    obtain ⟨q, hrest, ht⟩ := Outbox.take_eq_ok hq
    have hs : c.step .receive =
        { c with
          buffer := { c.buffer with outbox := { c.buffer.outbox with queued := q } }
          received := c.received ++ [batch] } := by
      simp [step, Buffer.receive, ht, Except.map]
    have hopen : .closeOutbox ∉ deals := by
      intro hc
      rw [h.emptied hc] at hq
      contradiction
    have hwhole : c.prepared = c.received ++ [batch] ++ rest := by
      rw [h.whole hopen, hq, List.append_assoc, List.singleton_append]
    have hclose : .closeOutbox ∉ deals ++ [.receive] := by simpa using hopen
    rw [hs]
    refine ⟨?_, ?_, ?_, h.room, ⟨rest, hwhole.symm⟩, ?_, fun hc => absurd hc hclose, h.handles⟩
    · simpa using h.backlog
    · simpa using h.filled
    · simpa using h.drained
    · intro _
      rw [hwhole, hrest]

theorem Attended.closeOutbox (h : Attended outboxCapacity deals c) :
    Attended outboxCapacity (deals ++ [.closeOutbox]) (c.step .closeOutbox) := by
  have hclose : .closeOutbox ∈ deals ++ [.closeOutbox] := by simp
  refine ⟨?_, ?_, ?_, h.room, h.order, fun hc => absurd hclose hc, fun _ => rfl, h.handles⟩
  · simpa [step, Buffer.closeOutbox] using h.backlog
  · simpa [step, Buffer.closeOutbox, Outbox.abandon] using h.filled
  · exact ⟨fun hc => absurd hclose hc, fun hd => by cases hd⟩

theorem Attended.drop (h : Attended outboxCapacity deals c) :
    Attended outboxCapacity (deals ++ [.drop]) (c.step .drop) := by
  have hdrop : .drop ∈ deals ++ [.drop] := by simp
  refine ⟨?_, ?_, ?_, h.room, h.order, ?_, ?_, h.handles⟩
  · refine ⟨fun hd => absurd hdrop hd, ?_⟩
    rintro ⟨l, hl⟩
    cases hl
  · exact ⟨fun hd => absurd hdrop hd, fun hf => by cases hf⟩
  · simpa [step, Buffer.drop, Outbox.finish] using h.drained
  · simpa [step, Buffer.drop, Outbox.finish] using h.whole
  · simpa [step, Buffer.drop, Outbox.finish] using h.emptied

theorem Attended.step (h : Attended outboxCapacity deals c) (deal : Deal) :
    Attended outboxCapacity (deals ++ [deal]) (c.step deal) := by
  cases deal with
  | send handle i => exact h.send handle i
  | clone handle => exact h.clone handle
  | prepare stamp endpoint => exact h.prepare stamp endpoint
  | receive => exact h.receive
  | closeOutbox => exact h.closeOutbox
  | drop => exact h.drop

end

theorem after_attended {capacity outboxCapacity : Nat} (source : String)
    (deals : List Deal) :
    Attended outboxCapacity deals
      (after ⟨some (Backlog.make capacity source), ⟨outboxCapacity, Fifo.empty, true, true⟩⟩
        deals) := by
  induction deals using List.reverseRecOn with
  | nil => exact Attended.start capacity outboxCapacity source
  | append_singleton deals deal ih =>
    rw [after_snoc]
    exact ih.step deal

/-- What comes of an attempt to prepare, by who has left. -/
theorem Attended.prepares {outboxCapacity : Nat} {deals : List Deal} {c : Company}
    (h : Attended outboxCapacity deals c) {l : Backlog} (hl : c.buffer.backlog = some l)
    (stamp : Stamp) (endpoint : Option String) :
    let queued := c.buffer.outbox.queued.toList
    let x := c.buffer.prepare stamp endpoint
    let d := c.step (.prepare stamp endpoint)
    d.buffer = x.2.1 ∧
    (x.1 = some (.ok ()) ↔ .closeOutbox ∉ deals ∧ queued.length < outboxCapacity) ∧
    (x.1 = some (.error .closed) ↔ .closeOutbox ∈ deals) ∧
    (x.1 = some (.error .full) ↔ .closeOutbox ∉ deals ∧ outboxCapacity ≤ queued.length) ∧
    (x.1 = some (.ok ()) → d.prepared = c.prepared ++ [l.batch stamp endpoint] ∧
      x.2.1.outbox.queued.toList = queued ++ [l.batch stamp endpoint]) ∧
    (x.1 ≠ some (.ok ()) → d.prepared = c.prepared ∧ x.2.1.outbox = c.buffer.outbox) := by
  intro queued x d
  have hfilled : c.buffer.outbox.filled = true := h.filled.1 (h.backlog.2 ⟨l, hl⟩)
  have hlength : queued.length = c.buffer.outbox.queued.size := Fifo.length_toList _
  obtain ⟨hd, -, hroom, hx, hb⟩ | ⟨hb, ⟨hgone, hx⟩ | ⟨hd, -, hfull, hx⟩⟩ :=
    prepare_cases hl stamp endpoint
  · have hopen : .closeOutbox ∉ deals := h.drained.2 hd
    have hroom' : queued.length < outboxCapacity := by rwa [hlength, ← h.room]
    have hs : d = { c with buffer := x.2.1, prepared := c.prepared ++ [l.batch stamp endpoint] } :=
      step_prepared hl hx
    refine ⟨by rw [hs], ?_, ?_, ?_, fun _ => ⟨by rw [hs], ?_⟩, fun hx' => absurd hx hx'⟩
    · simp [x, hx, hopen, hroom']
    · simp [x, hx, hopen]
    · simp [x, hx, hroom']
    · simp only [x, hb, queued, Fifo.toList_push]
  · have hclosed : .closeOutbox ∈ deals := by
      apply Classical.not_not.1
      intro hopen
      have hd := h.drained.1 hopen
      simp [hd, hfilled] at hgone
    have hs : d = { c with buffer := x.2.1 } := step_not_prepared (by simp [hx])
    refine ⟨by rw [hs], ?_, ?_, ?_, ?_, fun _ => ⟨by rw [hs], by simp only [x, hb]⟩⟩
    · simp [x, hx, hclosed]
    · simp [x, hx, hclosed]
    · simp [x, hx, hclosed]
    · simp [x, hx]
  · have hopen : .closeOutbox ∉ deals := h.drained.2 hd
    have hfull' : outboxCapacity ≤ queued.length := by rwa [hlength, ← h.room]
    have hs : d = { c with buffer := x.2.1 } := step_not_prepared (by simp [hx])
    refine ⟨by rw [hs], ?_, ?_, ?_, ?_, fun _ => ⟨by rw [hs], by simp only [x, hb]⟩⟩
    · simp [x, hx, hfull']
    · simp [x, hx, hopen]
    · simp [x, hx, hopen, hfull']
    · simp [x, hx]

/-- Whether an attempt to prepare succeeds, and whether a recording does, hangs on who has left and
on the room that is left, and on nothing else: with nobody to take batches out the attempt fails as
closed, without room as full, and a failed attempt queues nothing; every handle records until the
buffer is dropped. The batches that come out are the first ones that were prepared, and while
somebody takes them out the others are still queued, the next one in front, also once the buffer is
dropped. -/
theorem any_may_leave (capacity : Nat) (source : String) (outboxCapacity : Nat) :
    ((∃ b, Buffer.make capacity source outboxCapacity = .ok b) ↔
      1 ≤ outboxCapacity ∧ outboxCapacity ≤ Outbox.maxCapacity) ∧
    ∀ b, Buffer.make capacity source outboxCapacity = .ok b → ∀ deals,
      let c := after b deals
      let queued := c.buffer.outbox.queued.toList
      (.drop ∉ deals → ∃ l, c.buffer.backlog = some l ∧ ∀ stamp endpoint,
        let x := c.buffer.prepare stamp endpoint
        let d := c.step (.prepare stamp endpoint)
        d.buffer = x.2.1 ∧
        (x.1 = some (.ok ()) ↔ .closeOutbox ∉ deals ∧ queued.length < outboxCapacity) ∧
        (x.1 = some (.error .closed) ↔ .closeOutbox ∈ deals) ∧
        (x.1 = some (.error .full) ↔ .closeOutbox ∉ deals ∧ outboxCapacity ≤ queued.length) ∧
        (x.1 = some (.ok ()) → d.prepared = c.prepared ++ [l.batch stamp endpoint] ∧
          x.2.1.outbox.queued.toList = queued ++ [l.batch stamp endpoint]) ∧
        (x.1 ≠ some (.ok ()) → d.prepared = c.prepared ∧ x.2.1.outbox = c.buffer.outbox)) ∧
      (.drop ∈ deals → ∀ stamp endpoint, (c.buffer.prepare stamp endpoint).1 = none) ∧
      c.received <+: c.prepared ∧
      (.closeOutbox ∉ deals → c.prepared = c.received ++ queued ∧
        ∀ batch rest, queued = batch :: rest →
          ∃ o, c.buffer.receive = .ok (batch, { c.buffer with outbox := o }) ∧
            o.queued.toList = rest ∧ (c.step .receive).received = c.received ++ [batch]) ∧
      ∀ handle < c.handles, (c.step (.clone handle)).handles = c.handles + 1 ∧ ∀ i,
        (.drop ∉ deals →
          ∃ l, c.record handle i = some (.ok { c.buffer with backlog := some l })) ∧
        (.drop ∈ deals → c.record handle i = some (.error .closed)) := by
  refine ⟨?_, ?_⟩
  · simp only [make_eq_ok_iff, exists_and_left, exists_eq', and_true]
  · intro b hb deals c queued
    obtain ⟨-, rfl⟩ := make_eq_ok_iff.1 hb
    have ha : Attended outboxCapacity deals c := after_attended source deals
    have hgone (hd : .drop ∈ deals) : c.buffer.backlog = none := by
      cases hl : c.buffer.backlog with
      | none => rfl
      | some l => exact absurd hd (ha.backlog.2 ⟨l, hl⟩)
    refine ⟨?_, ?_, ha.order, ?_, ?_⟩
    · intro hd
      obtain ⟨l, hl⟩ := ha.backlog.1 hd
      exact ⟨l, hl, fun stamp endpoint => ha.prepares hl stamp endpoint⟩
    · intro hd stamp endpoint
      simp [Buffer.prepare, hgone hd]
    · intro hc
      refine ⟨ha.whole hc, ?_⟩
      intro batch rest hq
      obtain ⟨q, hrest, ht⟩ := Outbox.take_eq_ok hq
      refine ⟨{ c.buffer.outbox with queued := q }, ?_, hrest, ?_⟩
      · simp [Buffer.receive, ht, Except.map]
      · simp [step, Buffer.receive, ht, Except.map]
    · intro handle hh
      refine ⟨by simp [step, hh], ?_⟩
      intro i
      refine ⟨?_, ?_⟩
      · intro hd
        obtain ⟨l, hl⟩ := ha.backlog.1 hd
        exact ⟨l.record i, by simp [record, hh, Buffer.record, hl]⟩
      · intro hd
        simp [record, hh, Buffer.record, hgone hd]

/-- An item recorded with a second handle is still received when the buffer is gone, and neither
handle records any more. -/
theorem any_may_leave_of_drop :
    let item : Item := .make .blank .event "a"
    let deals : List Deal := [.clone 0, .send 1 item, .prepare .blank none, .drop]
    ∃ b, Buffer.make 10 "agent" 1 = .ok b ∧
      let c := after b deals
      c.received <+: c.prepared ∧
      c.record 0 item = some (.error .closed) ∧ c.record 1 item = some (.error .closed) ∧
      c.prepared = [⟨.blank, "agent", [item], none⟩] ∧
      (c.step .receive).received = [⟨.blank, "agent", [item], none⟩] := by
  intro item deals
  obtain ⟨hmade, hall⟩ := any_may_leave 10 "agent" 1
  obtain ⟨b, hb⟩ := hmade.2 ⟨Nat.le_refl 1, by decide⟩
  refine ⟨b, hb, ?_⟩
  obtain rfl : (⟨some (Backlog.make 10 "agent"), ⟨1, Fifo.empty, true, true⟩⟩ : Buffer) = b :=
    Except.ok.inj hb
  obtain ⟨-, -, horder, hopen, hrecord⟩ := hall _ hb deals
  obtain ⟨-, hreceive⟩ := hopen (by simp [deals])
  obtain ⟨o, -, -, hreceived⟩ := hreceive _ [] rfl
  exact ⟨horder, ((hrecord 0 (by decide)).2 item).2 (by simp [deals]),
    ((hrecord 1 (by decide)).2 item).2 (by simp [deals]), rfl, hreceived⟩

end Company

end Buffer

end LiveTelemetry
