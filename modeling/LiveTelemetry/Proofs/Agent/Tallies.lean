import LiveTelemetry.Proofs.Agent.Items
/-!
What the parts of an agent count. Main statement: whenever its loop is between two cycles, the
counters of the loop, of the uplink and of the backlog agree.
-/
namespace LiveTelemetry

open Loop (Exchange Runs State Visits Watched)
open Telemetry (Batch Item)
open Uplink (Contact)

namespace Agent

/-- On the host that is in state `t` nothing happened to the backlog `b` but that items were
recorded. -/
def Recorded (w : Setting σ) (b : Backlog) (t : σ) : Prop :=
  ∃ items, w.backlog t = recordAll items b

/-- The host does nothing with its backlog but record items, whether or not it keeps a ledger. -/
structure Records (w : Setting σ) : Prop where
  elapse : ∀ now s, Recorded w (w.backlog s) (w.elapse now s)
  carry : ∀ r s, Recorded w (w.backlog s) (w.link.carry r s).beyond
  keep : ∀ b s, Recorded w b (w.keep b s)

section

variable {w : Setting σ}

theorem Grown.recorded {k : Ledger σ} {b : Backlog} {s t : σ} (h : Grown w k b s t) :
    Recorded w b t := by
  obtain ⟨items, hb, -⟩ := h
  exact ⟨items, hb⟩

theorem OnlyRecords.records {k : Ledger σ} (h : OnlyRecords w k) : Records w :=
  ⟨fun now s => (h.elapse now s).recorded, fun r s => (h.carry r s).recorded,
    fun b s => (h.keep b s).recorded⟩

theorem Recorded.refl (s : σ) : Recorded w (w.backlog s) s := ⟨[], rfl⟩

theorem Recorded.trans {b : Backlog} {s t : σ} (h : Recorded w b s)
    (h' : Recorded w (w.backlog s) t) : Recorded w b t := by
  obtain ⟨xs, hb⟩ := h
  obtain ⟨ys, hb'⟩ := h'
  refine ⟨xs ++ ys, ?_⟩
  rw [hb', hb, Backlog.recordAll_append]

theorem Records.inquiry (h : Records w) (u : Uplink) (time : Instant) (endpoint : Option String)
    (s : σ) : Recorded w (w.backlog s) (u.inquiry w.link time endpoint s).beyond :=
  Uplink.inquiry_beyond (R := fun s t => Recorded w (w.backlog s) t) Recorded.refl Recorded.trans
    h.carry u time endpoint s

theorem Records.exchange (h : Records w) (u : Uplink) (b : Batch) (s : σ) :
    Recorded w (w.backlog s) (u.exchange w.link b s).beyond :=
  Uplink.exchange_beyond (R := fun s t => Recorded w (w.backlog s) t) Recorded.refl Recorded.trans
    h.carry u b s

end

/-- The posts among contacts that were not taken. -/
def lostPosts (log : List Contact) : List Uplink.Post :=
  (log.filterMap Contact.post?).filter fun p => !p.taken

/-- The counters of a loop, an uplink and a backlog agree, given the posts that were lost. -/
structure Agree (c : CycleTally) (t : UplinkTally) (b : BufferTally) (lost : List Uplink.Post) :
    Prop where
  pings : t.pings = c.pings
  batches : t.batches = c.posts
  failures : t.failures = c.failures
  made : b.batches = c.posts + t.dropped
  prepared : b.prepared = t.items + (posted lost).length
  dropped : t.dropped = lost.length

namespace Agree

variable {c : CycleTally} {u : Uplink} {b : Backlog} {lost : List Uplink.Post}

/-- To record items makes no batches. -/
theorem recorded {w : Setting σ} {t : UplinkTally} {s : σ} (h : Agree c t b.tally lost)
    (hs : Recorded w b s) : Agree c t (w.backlog s).tally lost := by
  obtain ⟨items, hb⟩ := hs
  rw [hb, Backlog.recordAll_tally]
  exact ⟨h.pings, h.batches, h.failures, h.made, h.prepared, h.dropped⟩

/-- The loop and the uplink count a ping alike. -/
theorem ping (h : Agree c u.tally b.tally lost) {x : Exchange} {e : Option String}
    {r : Except Http.Failure Http.Answer}
    (hx : x.deed = .ping e ((Uplink.verdict r).mapError Uplink.Error.message)) :
    Agree (x.count c) (u.settlePing r).tally b.tally lost := by
  cases hv : Uplink.verdict r with
  | ok d =>
    rw [hv] at hx
    simp only [Uplink.settlePing, hv, Exchange.count, hx, Except.mapError, Uplink.countPing]
    exact ⟨congrArg (· + 1) h.pings, h.batches, h.failures, h.made, h.prepared, h.dropped⟩
  | error e =>
    rw [hv] at hx
    simp only [Uplink.settlePing, hv, Exchange.count, hx, Except.mapError, Uplink.countFailure]
    exact ⟨h.pings, h.batches, congrArg (· + 1) h.failures, h.made, h.prepared, h.dropped⟩

/-- The backlog counts a batch when it is made, the loop and the uplink when they know what became
of it. -/
theorem post (h : Agree c u.tally b.tally lost) {x y : Exchange} {p : Uplink.Post}
    {e : Option String} (hx : x.deed = .prepare e (.ok ()))
    (hy : y.deed = .send (p.outcome.mapError Uplink.Error.message)) :
    Agree (y.count (x.count c)) (u.settlePost p 0).tally (b.drain.2.1.count p.batch.size).tally
      (lost ++ [p].filter fun p => !p.taken) := by
  have hprepare : x.count c = c := by simp only [Exchange.count, hx]
  rw [hprepare]
  have hmade : (b.drain.2.1.count p.batch.size).tally.batches = b.tally.batches + 1 := rfl
  have hprepared : (b.drain.2.1.count p.batch.size).tally.prepared =
      b.tally.prepared + p.batch.size := rfl
  cases ho : p.outcome with
  | ok d =>
    have htaken := Uplink.Post.taken_of_ok ho
    rw [ho] at hy
    have hlost : (lost ++ [p].filter fun p => !p.taken) = lost := by simp [htaken]
    simp only [hlost, Uplink.settlePost_taken ho, Exchange.count, hy, Except.mapError]
    refine ⟨h.pings, congrArg (· + 1) h.batches, h.failures, ?_, ?_, h.dropped⟩
    · rw [hmade, h.made]
      exact Nat.add_right_comm ..
    · rw [hprepared, h.prepared]
      exact Nat.add_right_comm ..
  | error e =>
    have htaken := Uplink.Post.not_taken_of_error ho
    rw [ho] at hy
    have hlost : (lost ++ [p].filter fun p => !p.taken) = lost ++ [p] := by simp [htaken]
    have hposted : (posted (lost ++ [p])).length = (posted lost).length + p.batch.size := by
      simp [posted, Batch.size]
    simp only [hlost, Uplink.settlePost_refused ho, Exchange.count, hy, Except.mapError]
    refine ⟨h.pings, h.batches, congrArg (· + 1) h.failures, ?_, ?_, ?_⟩
    · rw [hmade, h.made]
      rfl
    · rw [hprepared, h.prepared, hposted, Nat.add_assoc]
      rfl
    · rw [List.length_append, ← h.dropped]
      rfl

end Agree

/-- An agent is ready for the next cycle, and its counters agree with what its loop has seen. -/
structure Tallied (w : Setting σ) (s : State (Watched (Logged σ))) : Prop where
  ready : s.partners.partners.agent.outbox.Ready
  agree : Agree (Loop.tallyOf s.partners.seen) s.partners.partners.agent.uplink.tally
    (w.backlog s.partners.partners.agent.world).tally (lostPosts s.partners.partners.log)

theorem Tallied.turn {w : Setting σ} {i : Intervals} {s : State (Watched (Logged σ))}
    (hw : Records w) (h : Tallied w s) (going : s.mode ≠ .stopped) :
    Tallied w (s.turn (logged w).watched i) := by
  let a := s.partners.partners.agent
  have hpast := h.agree.recorded (hw.elapse s.clock a.world)
  obtain ⟨ys, hys, -⟩ := Loop.turn_cycle (logged w) i going
  have htally : Loop.tallyOf (s.turn (logged w).watched i).partners.seen =
      ys.foldl Exchange.count (Loop.tallyOf s.partners.seen) := by
    rw [hys, Loop.tallyOf_append]
  rcases turn_cases (w := w) (i := i) h.ready going with ⟨-, hseen, hp⟩ | ⟨-, later, hseen, hp⟩
  · rw [hys, List.map_append] at hseen
    obtain ⟨x, rfl, hx⟩ := List.map_eq_singleton_iff.1 (List.append_cancel_left hseen)
    let asked := a.uplink.inquiry w.link (w.stamp s.clock a.stamps).time s.endpoint.1
      (w.elapse s.clock a.world)
    have hping : x.deed = .ping s.endpoint.1
        ((Uplink.verdict asked.outcome).mapError Uplink.Error.message) := by
      rw [hx, ← Uplink.asking_response]
      rfl
    have hlost : lostPosts (s.partners.partners.log ++ [a.pingContact w s.clock s.endpoint.1]) =
        lostPosts s.partners.partners.log := by
      simp [lostPosts, pingContact, Uplink.asking, Contact.post?]
    refine ⟨?_, ?_⟩
    · rw [hp]
      exact h.ready
    · rw [hp, htally, hlost]
      exact (hpast.ping hping).recorded (hw.inquiry a.uplink _ _ _)
  · let batch := a.nextBatch w s.clock s.endpoint.1
    let kept := a.batched w s.clock s.endpoint.1
    let q := a.uplink.post w.link batch (w.elapse later kept)
    rw [hys, List.map_append] at hseen
    obtain ⟨x, zs, rfl, hx, hzs⟩ := List.map_eq_cons_iff.1 (List.append_cancel_left hseen)
    obtain ⟨y, rfl, hy⟩ := List.map_eq_singleton_iff.1 hzs
    have hlost : lostPosts (s.partners.partners.log ++ [.post q]) =
        lostPosts s.partners.partners.log ++ [q].filter fun p => !p.taken := by
      simp [lostPosts, Contact.post?]
    have hgrown := ((hw.keep _ _).trans (hw.elapse later kept)).trans
      (hw.exchange a.uplink batch _)
    refine ⟨?_, ?_⟩
    · rw [hp]
      exact h.ready
    · rw [hp, htally, hlost]
      exact (hpast.post hx hy).recorded hgrown

theorem Tallied.of_visits {w : Setting σ} {i : Intervals} {clock : Nat} {before : Bool}
    {wait : Option Nat} {a : Agent σ} {s : State (Watched (Logged σ))} (hw : Records w)
    (ready : a.outbox.Ready)
    (agree : Agree .zero a.uplink.tally (w.backlog a.world).tally [])
    (h : Visits (logged w).watched i ((State.opening clock before wait ⟨a, []⟩).watch []) s) :
    Tallied w s := by
  induction h with
  | start =>
    cases before with
    | false => exact ⟨ready, agree⟩
    | true => exact ⟨ready, agree⟩
  | turn _ going _ ih => exact ih.turn hw going
  | finish _ _ _ ih => exact ⟨ih.ready, ih.agree⟩

/-- The agent's parts agree on what they counted, after each cycle and when the run returns: the
uplink's pings, batches and failures are the loop's pings, posts and failures, and the batches and
items that the backlog prepared were taken by the service or lost with a post. It makes no
difference whether items are recorded in the meantime. -/
theorem tallies_agree {w : Setting σ} {i : Intervals} {clock : Nat} {before : Bool}
    {wait : Option Nat} {endpoint name source : String} {timeout slots capacity stamps : Nat}
    {items : List Item} {o : Outbox} {world : σ} {xs : List Exchange} {s : State (Agent σ)}
    (hw : Records w) (ho : Outbox.make slots = .ok o)
    (hb : w.backlog world = recordAll items (Backlog.make capacity source))
    (h : Runs (partners w) i
      (State.opening clock before wait ⟨Uplink.make endpoint name timeout, o, stamps, world⟩)
      xs s) :
    ∃ log, Logs w i
        (State.opening clock before wait ⟨Uplink.make endpoint name timeout, o, stamps, world⟩)
        xs log s ∧
      ∀ host, Recorded w (w.backlog s.partners.world) host →
        Agree s.tally s.partners.uplink.tally (w.backlog host).tally (lostPosts log) := by
  obtain ⟨log, hlog⟩ := exists_log h
  refine ⟨log, hlog, ?_⟩
  intro host hhost
  have hnone : Agree .zero UplinkTally.zero (Backlog.make capacity source).tally [] :=
    ⟨rfl, rfl, rfl, rfl, rfl, rfl⟩
  have hfresh : Agree .zero UplinkTally.zero (w.backlog world).tally [] :=
    hnone.recorded ⟨items, hb⟩
  have hcontacts := hlog.contacts
  rw [keeping_opening] at hcontacts
  have ht : Tallied w ((keeping s log).watch xs) :=
    Tallied.of_visits hw (Outbox.Ready.of_make ho) hfresh hcontacts
  have htally : s.tally = Loop.tallyOf xs := Visits.tally_eq h
  rw [htally]
  exact ht.agree.recorded hhost

/-- Of two batches of one item each, the first is lost on its way and the second is taken. -/
theorem tallies_agree_of_lost_post :
    let text (s : String) := Text.Utf8.encode s.toList
    let item := Item.make .blank .event
    let wanted := (Http.Plan.make .answers 200
      [(text "x-live-metrics-subscribed", text "true")] [] (id : Yard → Yard)).delivery
    let y : Yard := ⟨[(wanted, [item "a"]), (.lost, [item "b"]), (wanted, [item "c"])],
      Backlog.make 4 "agent", [], []⟩
    let i : Intervals := ⟨10, 20, 30⟩
    let o : Outbox := ⟨1, Fifo.empty, true, true⟩
    let p := partners Yard.setting
    let s₀ := State.opening 0 false none ⟨Uplink.make "http://a" "agent" 1000, o, 0, y⟩
    let s := (((s₀.start i).turn p i).turn p i).turn p i
    let b := s.partners.world.backlog
    Outbox.make 1 = .ok o ∧ s.tally = ⟨1, 1, 1, 1, 0, 0⟩ ∧
      s.partners.uplink.tally = ⟨1, 1, 1, 1, 1⟩ ∧ b.tally = ⟨3, 2, 0, 2⟩ ∧
      ∃ xs log, Runs p i s₀ xs s ∧ Logs Yard.setting i s₀ xs log s ∧
        Agree s.tally s.partners.uplink.tally b.tally (lostPosts log) ∧
        (posted (lostPosts log)).length = 1 := by
  intro text item wanted y i o p s₀ s b
  have ho : Outbox.make 1 = .ok o := rfl
  have htallies : s.tally = ⟨1, 1, 1, 1, 0, 0⟩ ∧ s.partners.uplink.tally = ⟨1, 1, 1, 1, 1⟩ ∧
      b.tally = ⟨3, 2, 0, 2⟩ := by
    decide +kernel
  obtain ⟨hloop, huplink, hbacklog⟩ := htallies
  have hr : Runs p i s₀ _ s :=
    ((Runs.start.turn (by decide) rfl rfl).turn (by decide +kernel) (by decide +kernel) rfl).turn
      (by decide +kernel) (by decide +kernel) rfl
  have hb : Yard.setting.backlog y = recordAll [] (Backlog.make 4 "agent") := rfl
  obtain ⟨log, hlog, hhost⟩ := tallies_agree Yard.onlyRecords.records ho hb hr
  have hagree := hhost s.partners.world (Recorded.refl (w := Yard.setting) s.partners.world)
  simp only [Yard.setting] at hagree
  have hvalues : Agree s.tally ⟨1, 1, 1, 1, 1⟩ ⟨3, 2, 0, 2⟩ (lostPosts log) := by
    rw [huplink, hbacklog] at hagree
    exact hagree
  have hlost : 2 = 1 + (posted (lostPosts log)).length := hvalues.prepared
  exact ⟨ho, hloop, huplink, hbacklog, _, log, hr, hlog, hagree, by omega⟩

end Agent

end LiveTelemetry
