import LiveTelemetry.Proofs.Buffer.Window
/-!
What becomes of items whose batch the outbox turns down. Main statement: they are lost, and by as
many the items received exceed those that were prepared, given up, wait, or are on their way.
-/
namespace LiveTelemetry

open Telemetry (Item Batch Stamp)

namespace Backlog

/-- What is received waits, or makes an older item leave. -/
theorem record_balance (b : Backlog) (i : Item) :
    (b.record i).tally.received = b.tally.received + 1 ∧
    (b.record i).tally.prepared = b.tally.prepared ∧
    (b.record i).tally.dropped + (b.record i).waiting.size =
      b.tally.dropped + b.waiting.size + 1 := by
  obtain ⟨-, -, hw⟩ := b.record_fields i
  have hsize : (b.record i).waiting.size =
      (if b.limit ≤ b.waiting.size then b.waiting.size - 1 else b.waiting.size) + 1 := by
    rw [← Fifo.length_toList, hw, Fifo.length_toList]
    split <;> simp
  have hpos : 0 < b.limit := by
    unfold limit
    omega
  rw [b.record_tally i, hsize]
  refine ⟨rfl, rfl, ?_⟩
  dsimp only
  split <;> omega

theorem size_batch (b : Backlog) (stamp : Stamp) (endpoint : Option String) :
    (b.batch stamp endpoint).items.length = b.waiting.size := by
  simp [batch, drain]

end Backlog

namespace Buffer

namespace Session

/-- The batches that are turned down with a move. -/
def refuses (s : Session) : Move → List Batch
  | .handOver place =>
    match s.held[place]? with
    | some batch =>
      match s.buffer.outbox.push batch with
      | .ok _ => []
      | .error _ => [batch]
    | none => []
  | _ => []

/-- What is noted of a buffer in use, move by move. -/
def noted (f : β → Session → Move → β) (y : β) (b : Buffer) (moves : List Move) : β :=
  (moves.foldl (fun (s, y) m => (s.step m, f y s m)) ((⟨b, [], [], []⟩ : Session), y)).2

theorem noted_snoc (f : β → Session → Move → β) (y : β) (b : Buffer) (moves : List Move)
    (m : Move) : noted f y b (moves ++ [m]) = f (noted f y b moves) (run b moves) m := by
  have hrun : (moves.foldl (fun (s, y) m => (s.step m, f y s m))
      ((⟨b, [], [], []⟩ : Session), y)).1 = run b moves := by
    induction moves using List.reverseRecOn with
    | nil => rfl
    | append_singleton moves m ih =>
      rw [run_snoc, ← ih]
      simp
  rw [← hrun]
  simp [noted]

/-- All batches that were turned down, the first one first. -/
def refused (b : Buffer) (moves : List Move) : List Batch :=
  noted (fun lost s m => lost ++ s.refuses m) [] b moves

theorem refused_snoc (b : Buffer) (moves : List Move) (m : Move) :
    refused b (moves ++ [m]) = refused b moves ++ (run b moves).refuses m :=
  noted_snoc _ _ _ _ _

/-- The outcomes of handing a batch over: the outbox takes it, and it is counted, or it turns the
batch down, and nothing else changes. -/
theorem handOver_cases {s : Session} {place : Nat} {batch : Batch}
    (hb : s.held[place]? = some batch) :
    (∃ o, s.buffer.outbox.push batch = .ok o ∧ s.refuses (.handOver place) = [] ∧
      s.step (.handOver place) = { s with
        buffer := ⟨s.buffer.backlog.map (·.count batch.size), o⟩
        held := s.held.eraseIdx place }) ∨
    (∃ e, s.buffer.outbox.push batch = .error e ∧ s.refuses (.handOver place) = [batch] ∧
      s.step (.handOver place) = { s with held := s.held.eraseIdx place }) := by
  cases ho : s.buffer.outbox.push batch with
  | ok o => exact .inl ⟨o, rfl, by simp [refuses, hb, ho], by simp [step, hb, push, ho]⟩
  | error e => exact .inr ⟨e, rfl, by simp [refuses, hb, ho], by simp [step, hb, push, ho]⟩

/-- Where the items are that a buffer in use received, and where its batches are: `lost` are those
that were turned down. -/
structure Kept (lost : List Batch) (s : Session) : Prop where
  balance : ∀ l, s.buffer.backlog = some l →
    l.tally.received = l.tally.prepared + l.tally.dropped + l.waiting.size +
      (s.held.flatMap Batch.items).length + (lost.flatMap Batch.items).length
  apart : (lost ++ (s.taken ++ s.buffer.outbox.queued.toList ++ s.held)).Subperm s.made

theorem length_items_eraseIdx {held : List Batch} {place : Nat} (h : place < held.length) :
    (held.flatMap Batch.items).length =
      held[place].size + ((held.eraseIdx place).flatMap Batch.items).length := by
  have hperm : (held[place] :: held.eraseIdx place).Perm held := List.getElem_cons_eraseIdx_perm h
  have hitems := (hperm.flatMap_right Batch.items).length_eq
  simpa [Batch.size] using hitems.symm

theorem Kept.handOver {lost : List Batch} {s : Session} (h : Kept lost s) (place : Nat) :
    Kept (lost ++ s.refuses (.handOver place)) (s.step (.handOver place)) := by
  cases hb : s.held[place]? with
  | none => simpa [refuses, step, hb] using h
  | some batch =>
    obtain ⟨hlt, rfl⟩ := List.getElem?_eq_some_iff.1 hb
    have hitems := length_items_eraseIdx hlt
    have hperm : (s.held[place] :: s.held.eraseIdx place).Perm s.held :=
      List.getElem_cons_eraseIdx_perm hlt
    obtain ⟨o, ho, hr, hs⟩ | ⟨e, ho, hr, hs⟩ := handOver_cases hb
    · rw [hr, hs]
      refine ⟨?_, ?_⟩
      · intro l' hl'
        obtain ⟨l, hl, rfl⟩ := Option.map_eq_some_iff.1 hl'
        have hl := h.balance l hl
        simp only [Backlog.count, List.append_nil]
        omega
      · have hall := hperm.append_left (lost ++ (s.taken ++ s.buffer.outbox.queued.toList))
        rw [Outbox.toList_of_push ho, List.append_nil]
        refine List.Subperm.trans (List.Perm.subperm ?_) h.apart
        simpa using hall
    · rw [hr, hs]
      refine ⟨?_, ?_⟩
      · intro l hl
        have hl := h.balance l hl
        simp only [List.flatMap_append, List.length_append, List.flatMap_singleton]
        simp only [Batch.size] at hitems
        omega
      · refine List.Subperm.trans (List.Perm.subperm ?_) h.apart
        have hback : (s.held[place] :: (s.taken ++ s.buffer.outbox.queued.toList ++
            s.held.eraseIdx place)).Perm (s.taken ++ s.buffer.outbox.queued.toList ++ s.held) :=
          List.perm_middle.symm.trans (hperm.append_left _)
        simpa using hback.append_left lost

theorem Kept.record {lost : List Batch} {s : Session} (h : Kept lost s) (i : Item) :
    Kept lost (s.step (.record i)) := by
  obtain ⟨-, hs⟩ | ⟨l, hl, hs⟩ := s.record_cases i
  · rw [hs]
    exact h
  · rw [hs]
    refine ⟨?_, h.apart⟩
    intro l' hl'
    obtain rfl := Option.some.inj hl'
    obtain ⟨hreceived, hprepared, hdropped⟩ := l.record_balance i
    have hbefore := h.balance l hl
    dsimp only
    omega

theorem Kept.gather {lost : List Batch} {s : Session} (h : Kept lost s) (stamp : Stamp)
    (endpoint : Option String) : Kept lost (s.step (.gather stamp endpoint)) := by
  obtain ⟨-, hs⟩ | ⟨l, hl, hs⟩ := s.gather_cases stamp endpoint
  · rw [hs]
    exact h
  · rw [hs]
    refine ⟨?_, ?_⟩
    · intro l' hl'
      obtain rfl := Option.some.inj hl'
      have hbefore := h.balance l hl
      have hempty : l.drain.2.1.waiting.size = 0 := rfl
      have htally : l.drain.2.1.tally = l.tally := rfl
      have hitems := l.size_batch stamp endpoint
      simp only [hempty, htally, List.flatMap_append, List.length_append, List.flatMap_singleton,
        hitems]
      omega
    · have hmore := h.apart.append (List.Subperm.refl [l.batch stamp endpoint])
      simpa using hmore

theorem Kept.receive {lost : List Batch} {s : Session} (h : Kept lost s) :
    Kept lost (s.step .receive) := by
  obtain hs | ⟨batch, b, hl, hq, hs⟩ := s.receive_cases
  · rw [hs]
    exact h
  · rw [hs]
    refine ⟨?_, ?_⟩
    · intro l hl'
      exact h.balance l (hl.symm.trans hl')
    · simpa [hq] using h.apart

theorem Kept.closeOutbox {lost : List Batch} {s : Session} (h : Kept lost s) :
    Kept lost (s.step .closeOutbox) := by
  refine ⟨h.balance, List.Subperm.trans ?_ h.apart⟩
  have hqueued : (s.step .closeOutbox).buffer.outbox.queued = Fifo.empty := rfl
  rw [hqueued, Fifo.toList_empty, List.append_nil]
  have hfewer : (s.taken ++ s.held).Sublist
      (s.taken ++ s.buffer.outbox.queued.toList ++ s.held) :=
    (List.sublist_append_left _ _).append (List.Sublist.refl _)
  exact (hfewer.append_left lost).subperm

theorem Kept.drop {lost : List Batch} {s : Session} (h : Kept lost s) :
    Kept lost (s.step .drop) := by
  refine ⟨?_, h.apart⟩
  intro l hl
  contradiction

theorem Kept.step {lost : List Batch} {s : Session} (h : Kept lost s) (m : Move) :
    Kept (lost ++ s.refuses m) (s.step m) := by
  cases m with
  | record i => simpa [refuses] using h.record i
  | gather stamp endpoint => simpa [refuses] using h.gather stamp endpoint
  | handOver place => exact h.handOver place
  | receive => simpa [refuses] using h.receive
  | closeOutbox => simpa [refuses] using h.closeOutbox
  | drop => simpa [refuses] using h.drop

theorem Kept.of_make {capacity outboxCapacity : Nat} {source : String} {b : Buffer}
    (h : Buffer.make capacity source outboxCapacity = .ok b) : Kept [] (run b []) := by
  have hi := Intact.of_make h
  refine ⟨?_, by simpa [run] using hi.once⟩
  intro l hl
  obtain ⟨-, rfl⟩ := make_eq_ok_iff.1 h
  obtain rfl := Option.some.inj hl
  rfl

theorem run_kept {capacity outboxCapacity : Nat} {source : String} {b : Buffer}
    (h : Buffer.make capacity source outboxCapacity = .ok b) (moves : List Move) :
    Kept (refused b moves) (run b moves) := by
  induction moves using List.reverseRecOn with
  | nil => exact Kept.of_make h
  | append_singleton moves m ih =>
    rw [run_snoc, refused_snoc]
    exact ih.step m

/-- A call to prepare that fails takes all that waits with it. -/
theorem fails_eq {b : Buffer} {moves : List Move} {l : Backlog}
    (hl : (run b moves).buffer.backlog = some l) {stamp : Stamp} {endpoint : Option String}
    {e : Refusal} (h : ((run b moves).buffer.prepare stamp endpoint).1 = some (.error e)) :
    ((run b moves).buffer.prepare stamp endpoint).2.1 =
      ⟨some l.drain.2.1, (run b moves).buffer.outbox⟩ ∧
    refused b (moves ++ [.gather stamp endpoint, .handOver (run b moves).held.length]) =
      refused b moves ++ [l.batch stamp endpoint] := by
  have hfails : (run b moves).buffer.outbox.push (l.batch stamp endpoint) = .error e := by
    simp only [Buffer.prepare, hl, Backlog.prepare_eq] at h
    cases ho : (run b moves).buffer.outbox.push (l.batch stamp endpoint) with
    | ok o => simp [ho] at h
    | error e' => simpa [ho] using h
  refine ⟨?_, ?_⟩
  · simp [Buffer.prepare, hl, Backlog.prepare_eq, hfails]
  · have hsteps : moves ++ [.gather stamp endpoint, .handOver (run b moves).held.length] =
        (moves ++ [.gather stamp endpoint]) ++ [.handOver (run b moves).held.length] := by simp
    rw [hsteps, refused_snoc, refused_snoc, run_snoc]
    simp [refuses, Session.step, hl, hfails]

/-- The items of a batch that the outbox turns down are lost: they wait no more, and the batch is in
no other place. So the items received are those that were prepared, given up, or wait, exactly as
long as no call to prepare that is under way or has failed took any. -/
theorem lost_when_refused {capacity outboxCapacity : Nat} {source : String} {b : Buffer}
    (h : Buffer.make capacity source outboxCapacity = .ok b) (moves : List Move) {l : Backlog}
    (hl : (run b moves).buffer.backlog = some l) :
    l.tally.received = l.tally.prepared + l.tally.dropped + l.waiting.size +
      ((run b moves).held.flatMap Batch.items).length +
      ((refused b moves).flatMap Batch.items).length ∧
    (l.tally.received = l.tally.prepared + l.tally.dropped + l.waiting.size ↔
      ∀ batch ∈ (run b moves).held ++ refused b moves, batch.items = []) ∧
    (refused b moves ++ ((run b moves).taken ++ (run b moves).buffer.outbox.queued.toList ++
      (run b moves).held)).Subperm (run b moves).made ∧
    ∀ stamp endpoint e, ((run b moves).buffer.prepare stamp endpoint).1 = some (.error e) →
      ∃ l', ((run b moves).buffer.prepare stamp endpoint).2.1 =
          ⟨some l', (run b moves).buffer.outbox⟩ ∧
        l'.waiting.toList = [] ∧ l'.tally = l.tally ∧
        (run b (moves ++ [.gather stamp endpoint, .handOver (run b moves).held.length])).buffer =
          ⟨some l', (run b moves).buffer.outbox⟩ ∧
        refused b (moves ++ [.gather stamp endpoint, .handOver (run b moves).held.length]) =
          refused b moves ++ [⟨stamp, source, l.waiting.toList, endpoint⟩] := by
  have hk := run_kept h moves
  have hbalance := hk.balance l hl
  refine ⟨hbalance, ?_, hk.apart, ?_⟩
  · have hnone : (∀ batch ∈ (run b moves).held ++ refused b moves, batch.items = []) ↔
        (((run b moves).held ++ refused b moves).flatMap Batch.items).length = 0 := by
      rw [List.length_eq_zero_iff, List.flatMap_eq_nil_iff]
    rw [hnone, List.flatMap_append, List.length_append]
    omega
  · intro stamp endpoint e hfails
    obtain ⟨hafter, hrefused⟩ := fails_eq hl hfails
    have hsource : l.source = source := ((run_intact h moves).holds l hl).2.1
    have hbatch : l.batch stamp endpoint = ⟨stamp, source, l.waiting.toList, endpoint⟩ := by
      rw [← hsource]
      rfl
    have hsteps : (run b (moves ++
        [.gather stamp endpoint, .handOver (run b moves).held.length])).buffer =
        ((run b moves).buffer.prepare stamp endpoint).2.1 := by
      rw [prepare_eq_steps hl]
      simp [run]
    exact ⟨l.drain.2.1, hafter, rfl, rfl, hsteps.trans hafter, hbatch ▸ hrefused⟩

/-- With room for one batch, the item of a second one is lost. -/
theorem lost_when_refused_of_full :
    let item : Item := .make .blank .event "a"
    let moves : List Move := [.gather .blank none, .handOver 0, .record item]
    ∃ b l, Buffer.make 10 "agent" 1 = .ok b ∧ (run b moves).buffer.backlog = some l ∧
      l.waiting.toList = [item] ∧
      ((run b moves).buffer.prepare .blank none).1 = some (.error .full) ∧
      ∃ l', ((run b moves).buffer.prepare .blank none).2.1.backlog = some l' ∧
        l'.waiting.toList = [] ∧ l'.tally = ⟨1, 0, 0, 1⟩ ∧
        refused b (moves ++ [.gather .blank none, .handOver 0]) =
          [⟨.blank, "agent", [item], none⟩] := by
  intro item moves
  have hb : Buffer.make 10 "agent" 1 =
      .ok ⟨some (Backlog.make 10 "agent"), ⟨1, Fifo.empty, true, true⟩⟩ := rfl
  obtain ⟨-, -, -, hfails⟩ := lost_when_refused hb moves rfl
  obtain ⟨l', hafter, hempty, htally, -, hrefused⟩ := hfails .blank none .full rfl
  exact ⟨_, _, hb, rfl, rfl, rfl, l', by rw [hafter], hempty, htally, hrefused⟩

end Session

end Buffer

end LiveTelemetry
