import LiveTelemetry.Proofs.Agent.Logged
import LiveTelemetry.Proofs.Buffer.Window
import LiveTelemetry.Proofs.Loop.Order
import LiveTelemetry.Proofs.Loop.Tally
import LiveTelemetry.Proofs.Loop.Target
/-!
What an agent makes of the responses of its service. Main statement: each cycle of the loop has one
contact, and the directive that the loop takes up is the one in the response.
-/
namespace LiveTelemetry

open Loop (Deed Exchange Runs State Visits Watched)
open Telemetry (Batch)
open Uplink (Contact)

/-! Outboxes -/

namespace Outbox

/-- Nothing waits, there is room, and both ends are in use. -/
structure Ready (o : Outbox) : Prop where
  queued : o.queued = Fifo.empty
  room : 0 < o.capacity
  drained : o.drained = true
  filled : o.filled = true

/-- An outbox with one batch in it. -/
def holding (o : Outbox) (b : Batch) : Outbox := { o with queued := Fifo.empty.push b }

theorem Ready.of_make {capacity : Nat} {o : Outbox} (h : make capacity = .ok o) : o.Ready := by
  obtain ⟨⟨hpos, -⟩, rfl⟩ := make_eq_ok_iff.1 h
  exact ⟨rfl, hpos, rfl, rfl⟩

theorem Ready.push {o : Outbox} (h : o.Ready) (b : Batch) : o.push b = .ok (o.holding b) := by
  have hroom : ¬ o.capacity ≤ 0 := Nat.not_le.2 h.room
  simp [Outbox.push, holding, h.queued, h.drained, h.filled, Fifo.empty, hroom]

theorem Ready.takeAll {o : Outbox} (h : o.Ready) (b : Batch) :
    (o.holding b).takeAll = ([b], o) := by
  have hqueued := h.queued
  obtain ⟨capacity, queued, drained, filled⟩ := o
  subst hqueued
  rfl

end Outbox

/-! Uplinks -/

namespace Uplink

theorem posts_singleton (l : Http.Link σ) (b : Batch) (u : Uplink) (s : σ) :
    posts l [b] u s = [u.post l b s] := by
  cases h : (u.post l b s).outcome with
  | ok d => exact posts_cons_taken h []
  | error e => exact posts_cons_refused h []

theorem postAll_singleton (l : Http.Link σ) (b : Batch) (u : Uplink) (s : σ) :
    let p := u.post l b s
    (postAll l [b] u s).outcome = p.outcome.map (fun _ => ()) ∧
    (postAll l [b] u s).uplink = u.settlePost p 0 ∧
    (postAll l [b] u s).beyond = (u.exchange l b s).beyond := by
  intro p
  cases h : p.outcome with
  | ok d =>
    obtain ⟨ho, hu, hb⟩ := postAll_cons_taken h []
    rw [ho, hu, hb, settlePost_taken h]
    exact ⟨rfl, rfl, rfl⟩
  | error e =>
    obtain ⟨ho, hu, hb⟩ := postAll_cons_refused h []
    rw [ho, hu, hb, settlePost_refused h]
    exact ⟨rfl, rfl, rfl⟩

/-- What the loop sees of a contact. A batch is prepared before it is sent. -/
def Contact.deeds (c : Contact) : List Deed :=
  let heard := c.outcome.mapError Error.message
  match c with
  | .ping e _ => [.ping e heard]
  | .post p => [.prepare p.batch.endpoint (.ok ()), .send heard]

end Uplink

namespace Agent

section

variable (w : Setting σ) (now : Nat) (endpoint : Option String) (a : Agent σ)

/-- The batch that is made of what was recorded up to now. -/
def nextBatch : Batch :=
  (w.backlog (w.elapse now a.world)).batch (w.stamp now a.stamps) endpoint

/-- The world once that batch is made. -/
def batched : σ :=
  w.keep ((w.backlog (w.elapse now a.world)).drain.2.1.count (a.nextBatch w now endpoint).size)
    (w.elapse now a.world)

end

section

variable (w : Setting σ) (now : Nat) (endpoint : Option String) {a : Agent σ}

theorem ping_spec (a : Agent σ) :
    let x := a.uplink.inquiry w.link (w.stamp now a.stamps).time endpoint (w.elapse now a.world)
    ((partners w).ping now endpoint a).1.outcome =
      (a.pingContact w now endpoint).outcome.mapError Uplink.Error.message ∧
    ((partners w).ping now endpoint a).2 =
      { a with
        uplink := a.uplink.settlePing x.outcome
        stamps := a.stamps + 1
        world := x.beyond } := by
  intro x
  obtain ⟨ho, hu, hbeyond⟩ := Uplink.ping_eq a.uplink w.link (w.stamp now a.stamps).time endpoint
    (w.elapse now a.world)
  simp only [partners, ping, reply, elapse]
  refine ⟨?_, ?_⟩
  · rw [ho, ← Uplink.asking_response]
    rfl
  · rw [hu, hbeyond]

/-- There is always room for the one batch that is made. -/
theorem prepare_spec (h : a.outbox.Ready) :
    ((partners w).prepare now endpoint a).1.outcome = .ok () ∧
    ((partners w).prepare now endpoint a).2 =
      { a with
        outbox := a.outbox.holding (a.nextBatch w now endpoint)
        stamps := a.stamps + 1
        world := a.batched w now endpoint } := by
  have hpush : a.outbox.push ((w.backlog (w.elapse now a.world)).batch (w.stamp now a.stamps)
      endpoint) = .ok (a.outbox.holding (a.nextBatch w now endpoint)) := h.push _
  simp only [partners, prepare, elapse, Backlog.prepare_eq, hpush]
  exact ⟨rfl, rfl⟩

/-- A batch that waits alone is posted, and its response is what the loop is told. -/
theorem send_spec {o : Outbox} (h : o.Ready) {b : Batch} (hb : a.outbox = o.holding b) :
    let p := a.uplink.post w.link b (w.elapse now a.world)
    a.postContacts w now = [.post p] ∧
    (((partners w).send now a).1.outcome.map fun _ =>
        (partners w).directive ((partners w).send now a).2) =
      p.outcome.mapError Uplink.Error.message ∧
    ((partners w).send now a).2 =
      { a with
        uplink := a.uplink.settlePost p 0
        outbox := o
        world := (a.uplink.exchange w.link b (w.elapse now a.world)).beyond } := by
  intro p
  have hqueued : (o.holding b).queued.toList = [b] := rfl
  obtain ⟨ho, hu, hbeyond⟩ :=
    Uplink.postAll_singleton w.link b a.uplink (w.elapse now a.world)
  refine ⟨?_, ?_, ?_⟩
  · rw [postContacts, hb, hqueued, Uplink.posts_singleton]
    rfl
  · simp only [partners, send, elapse, reply, Uplink.send, hb, h.takeAll, ho, hu]
    cases hp : p.outcome with
    | ok d => rw [Uplink.settlePost_taken hp]; rfl
    | error e => rfl
  · simp only [partners, send, elapse, reply, Uplink.send, hb, h.takeAll, hu, hbeyond]
    rfl

end

/-- A cycle makes one contact, which is all that the loop sees of it and all that it does to the
agent. -/
theorem turn_cases {w : Setting σ} {i : Intervals} {s : State (Watched (Logged σ))}
    (ready : s.partners.partners.agent.outbox.Ready) (going : s.mode ≠ .stopped) :
    let a := s.partners.partners.agent
    let log := s.partners.partners.log
    let t := (s.turn (logged w).watched i).partners
    (s.mode = .pinging ∧
      let c := a.pingContact w s.clock s.endpoint.1
      let x := a.uplink.inquiry w.link (w.stamp s.clock a.stamps).time s.endpoint.1
        (w.elapse s.clock a.world)
      t.seen.map Exchange.deed = s.partners.seen.map Exchange.deed ++ c.deeds ∧
      t.partners = ⟨{ a with
        uplink := a.uplink.settlePing x.outcome
        stamps := a.stamps + 1
        world := x.beyond }, log ++ [c]⟩) ∨
    (s.mode = .sending ∧ ∃ later,
      let b := a.nextBatch w s.clock s.endpoint.1
      let beyond := w.elapse later (a.batched w s.clock s.endpoint.1)
      let p := a.uplink.post w.link b beyond
      t.seen.map Exchange.deed = s.partners.seen.map Exchange.deed ++ (Contact.post p).deeds ∧
      t.partners = ⟨{ a with
        uplink := a.uplink.settlePost p 0
        stamps := a.stamps + 1
        world := (a.uplink.exchange w.link b beyond).beyond }, log ++ [.post p]⟩) := by
  intro a log t
  obtain ⟨s', wait, he, ht⟩ := Loop.turn_exit (logged w).watched i going
  have hpartners : t = s'.partners := by
    rw [← (s'.rest_fields wait).2.2.2, ← ht]
  obtain ⟨hready, hprepared⟩ := prepare_spec w s.clock s.endpoint.1 ready
  rcases he.partners_eq with ⟨hm, hp⟩ | ⟨-, ⟨e, hr⟩, -⟩ | ⟨hm, -, hp⟩
  · left
    obtain ⟨ho, hafter⟩ := ping_spec w s.clock s.endpoint.1 a
    obtain ⟨hpinged, hreply⟩ := s.watched_pinged (logged w)
    simp only [logged_eq] at hpinged hreply
    refine ⟨hm, ?_, ?_⟩
    · rw [hpartners, hp, hpinged, List.map_append, List.map_singleton, State.pingExchange, hreply,
        ho]
      rfl
    · rw [hpartners, hp, hpinged, hafter]
  · obtain ⟨-, hreply⟩ := s.watched_prepared (logged w)
    simp only [logged_eq] at hreply
    rw [hreply, hready] at hr
    cases hr
  · right
    let later := (s.prepared (logged w).watched).clock
    obtain ⟨hposts, ho, hafter⟩ := send_spec w later ready (congrArg Agent.outbox hprepared)
    obtain ⟨hcall, hreply⟩ := s.watched_prepared (logged w)
    obtain ⟨hsent, hdeed⟩ := (s.prepared (logged w).watched).watched_sent (logged w)
    rw [hcall] at hsent hdeed
    simp only [logged_eq, logged_directive] at hsent hdeed hreply
    refine ⟨hm, later, ?_, ?_⟩
    · rw [hpartners, hp, hsent]
      simp only [List.map_append, List.map_singleton, hdeed, State.prepareExchange, hreply, hready]
      rw [ho, List.append_assoc, hprepared]
      rfl
    · rw [hpartners, hp, hsent, hposts, hafter, hprepared]

/-- A cycle makes one contact, at the endpoint in use when it begins, and leaves nothing behind. -/
theorem turn_contact {w : Setting σ} {i : Intervals} {s : State (Watched (Logged σ))}
    (ready : s.partners.partners.agent.outbox.Ready) (going : s.mode ≠ .stopped) :
    let a := s.partners.partners.agent
    let t := s.turn (logged w).watched i
    ∃ c : Contact, t.partners.partners.log = s.partners.partners.log ++ [c] ∧
      t.partners.seen.map Exchange.deed = s.partners.seen.map Exchange.deed ++ c.deeds ∧
      c.endpoint = s.endpoint.1 ∧ c.Made a.uplink ∧
      (s.mode = .sending → ∃ p, c = .post p) ∧
      t.partners.partners.agent.outbox.Ready ∧
      t.partners.partners.agent.uplink.endpoint = a.uplink.endpoint ∧
      t.partners.partners.agent.uplink.instanceName = a.uplink.instanceName := by
  intro a t
  rcases turn_cases (w := w) (i := i) ready going with ⟨hm, hseen, hp⟩ | ⟨-, later, hseen, hp⟩
  · refine ⟨_, congrArg Logged.log hp, hseen, rfl, Uplink.asking_made .., ?_, ?_, ?_⟩
    · intro hs
      rw [hm] at hs
      cases hs
    · rw [hp]
      exact ready
    · rw [hp]
      exact Uplink.settlePing_home a.uplink _
  · refine ⟨_, congrArg Logged.log hp, hseen, rfl, Uplink.post_made, fun _ => ⟨_, rfl⟩, ?_, ?_⟩
    · rw [hp]
      exact ready
    · rw [hp]
      exact Uplink.settlePost_home a.uplink _ 0

/-- What is true of an agent that began with the uplink `u`: it is ready for the next cycle, and the
loop saw what its contacts brought. -/
structure Candid (u : Uplink) (s : State (Watched (Logged σ))) : Prop where
  ready : s.partners.partners.agent.outbox.Ready
  endpoint : s.partners.partners.agent.uplink.endpoint = u.endpoint
  name : s.partners.partners.agent.uplink.instanceName = u.instanceName
  deeds : s.partners.seen.map Exchange.deed = s.partners.partners.log.flatMap Contact.deeds
  made : ∀ c ∈ s.partners.partners.log, c.Made u

theorem Candid.turn {w : Setting σ} {i : Intervals} {u : Uplink}
    {s : State (Watched (Logged σ))} (h : Candid u s) (going : s.mode ≠ .stopped) :
    Candid u (s.turn (logged w).watched i) := by
  obtain ⟨c, hlog, hseen, -, hmade, -, hready, hendpoint, hname⟩ :=
    turn_contact (w := w) (i := i) h.ready going
  refine ⟨hready, hendpoint.trans h.endpoint, hname.trans h.name, ?_, ?_⟩
  · rw [hseen, hlog, h.deeds, List.flatMap_append, List.flatMap_singleton]
  · rw [hlog, List.forall_mem_append, List.forall_mem_singleton]
    exact ⟨h.made, hmade.congr h.endpoint h.name⟩

theorem candid_of_visits {w : Setting σ} {i : Intervals} {clock : Nat} {before : Bool}
    {wait : Option Nat} {a : Agent σ} {s : State (Watched (Logged σ))} (ready : a.outbox.Ready)
    (h : Visits (logged w).watched i ((State.opening clock before wait ⟨a, []⟩).watch []) s) :
    Candid a.uplink s := by
  induction h with
  | start =>
    cases before with
    | false => exact ⟨ready, rfl, rfl, rfl, by rintro c ⟨⟩⟩
    | true => exact ⟨ready, rfl, rfl, rfl, by rintro c ⟨⟩⟩
  | turn _ going _ ih => exact ih.turn going
  | finish _ _ _ ih => exact ⟨ih.ready, ih.endpoint, ih.name, ih.deeds, ih.made⟩

theorem Logs.turn {w : Setting σ} {i : Intervals} {s₀ s : State (Agent σ)}
    {xs ys : List Exchange} {log more : List Contact} (h : Logs w i s₀ xs log s)
    (going : s.mode ≠ .stopped) (free : s.told = false)
    (hseen : (((keeping s log).watch xs).turn (logged w).watched i).partners.seen = ys)
    (hlog : (((keeping s log).watch xs).turn (logged w).watched i).partners.partners.log = more) :
    Logs w i s₀ ys more (s.turn (partners w) i) := by
  have hshown : (keeping s log).turn (logged w) i =
      keeping (s.turn (partners w) i) ((keeping s log).turn (logged w) i).partners.log :=
    congrArg (fun s : State (Agent σ) => keeping s _)
      (State.through_turn (logged_shows w) i (keeping s log))
  rw [State.turn_watch] at hlog
  have hkept : ((keeping s log).turn (logged w) i).partners.log = more := hlog
  rw [hkept] at hshown
  apply Logs.of_contacts
  rw [← hshown]
  exact h.contacts.turn going free hseen

theorem keeping_opening (clock : Nat) (before : Bool) (wait : Option Nat) (a : Agent σ) :
    keeping (State.opening clock before wait a) [] = State.opening clock before wait ⟨a, []⟩ := by
  cases before <;> rfl

theorem Logs.candid {w : Setting σ} {i : Intervals} {clock : Nat} {before : Bool}
    {wait : Option Nat} {a : Agent σ} {xs : List Exchange} {log : List Contact}
    {s : State (Agent σ)} (ready : a.outbox.Ready)
    (h : Logs w i (State.opening clock before wait a) xs log s) :
    Candid a.uplink ((keeping s log).watch xs) := by
  have hcontacts := h.contacts
  rw [keeping_opening] at hcontacts
  exact candid_of_visits ready hcontacts

/-- The directive that the loop takes up with a deed. -/
def heard? : Deed → Option Directive
  | .ping _ outcome => outcome.toOption
  | .prepare _ _ => none
  | .send outcome => outcome.toOption

theorem heard?_deed (x : Exchange) : heard? x.deed = x.directive? := by
  obtain ⟨begun, ended, deed⟩ := x
  cases deed with
  | ping e outcome => cases outcome <;> rfl
  | prepare e outcome => rfl
  | send outcome => cases outcome <;> rfl

theorem filterMap_heard?_deeds (c : Contact) : c.deeds.filterMap heard? = c.directive?.toList := by
  cases c with
  | ping e x =>
    cases ho : (Contact.ping e x).outcome <;>
      simp [Contact.deeds, Contact.directive?, heard?, ho, Except.mapError, Except.toOption]
  | post p =>
    cases ho : (Contact.post p).outcome <;>
      simp [Contact.deeds, Contact.directive?, heard?, ho, Except.mapError, Except.toOption,
        List.filterMap_cons]

theorem filterMap_directive?_eq {xs : List Exchange} {log : List Contact}
    (h : xs.map Exchange.deed = log.flatMap Contact.deeds) :
    xs.filterMap Exchange.directive? = log.filterMap Contact.directive? := by
  calc xs.filterMap Exchange.directive?
    _ = (xs.map Exchange.deed).filterMap heard? := by
      simp only [List.filterMap_map, Function.comp_def, heard?_deed]
    _ = log.flatMap fun c => c.directive?.toList := by
      simp only [h, List.filterMap_flatMap, filterMap_heard?_deeds]
    _ = log.filterMap Contact.directive? := (List.filterMap_eq_flatMap_toList ..).symm

/-- At the start of every cycle the outbox is empty, so that no call to prepare fails, and a cycle
has one contact: a ping, or the post of one batch, at the endpoint in use when the cycle begins. A
link carries for the agent what its contacts take and nothing more. The directives that the loop
takes up are those in the responses, each once and in their order, and the endpoint in use is the
one that they ask for. -/
theorem contact_each_cycle {w : Setting σ} {i : Intervals} {clock : Nat} {before : Bool}
    {wait : Option Nat} {u : Uplink} {capacity stamps : Nat} {o : Outbox} {world : σ}
    {xs : List Exchange} {s : State (Agent σ)} (ho : Outbox.make capacity = .ok o)
    (h : Runs (partners w) i (State.opening clock before wait ⟨u, o, stamps, world⟩) xs s) :
    s.partners.outbox.queued.toList = [] ∧
    (∀ x ∈ xs, ∀ e m, x.deed ≠ .prepare e (.error m)) ∧
    ∃ log, Logs w i (State.opening clock before wait ⟨u, o, stamps, world⟩) xs log s ∧
      xs.map Exchange.deed = log.flatMap Contact.deeds ∧
      (∀ c ∈ log, c.Made u) ∧
      xs.filterMap Exchange.directive? = log.filterMap Contact.directive? ∧
      s.tally.redirects =
        (log.filterMap Contact.directive?).countP (fun d => d.redirect.isSome) ∧
      (∀ now, s.clock ≤ now → (Override.current s.override now).1 = Loop.inForce xs now) ∧
      (s.mode ≠ .stopped → s.told = false → ∃ ys c,
        Logs w i (State.opening clock before wait ⟨u, o, stamps, world⟩) (xs ++ ys) (log ++ [c])
          (s.turn (partners w) i) ∧
        ys.map Exchange.deed = c.deeds ∧ c.Made u ∧ c.endpoint = s.endpoint.1 ∧
        c.target = u.target s.endpoint.1 c.path ∧ (s.mode = .sending → ∃ p, c = .post p)) := by
  obtain ⟨log, hlog⟩ := exists_log h
  have hready := Outbox.Ready.of_make ho
  have hc : Candid u ((keeping s log).watch xs) := hlog.candid hready
  have hdeeds : xs.map Exchange.deed = log.flatMap Contact.deeds := hc.deeds
  have hdirectives := filterMap_directive?_eq hdeeds
  have hqueued : s.partners.outbox.queued = Fifo.empty := hc.ready.queued
  refine ⟨?_, ?_, log, hlog, hdeeds, hc.made, hdirectives, ?_, (Visits.onTarget h).held, ?_⟩
  · rw [hqueued]
    rfl
  · intro x hx e m hd
    have hmem : Deed.prepare e (.error m) ∈ log.flatMap Contact.deeds := by
      rw [← hdeeds, ← hd]
      exact List.mem_map_of_mem hx
    obtain ⟨c, -, hmem⟩ := List.mem_flatMap.1 hmem
    cases c <;> simp [Contact.deeds] at hmem
  · have htally : s.tally = Loop.tallyOf xs := Visits.tally_eq h
    rw [htally, Loop.redirects_tallyOf, hdirectives]
  · intro going free
    obtain ⟨c, hlog', hseen, hendpoint, hmade, hpost, -⟩ :=
      turn_contact (w := w) (i := i) (s := (keeping s log).watch xs) hc.ready going
    obtain ⟨ys, hys, -⟩ := Loop.turn_cycle (logged w) i (s := (keeping s log).watch xs) going
    rw [hys, List.map_append] at hseen
    have hmade' : c.Made u := hmade.congr hc.endpoint hc.name
    exact ⟨ys, c, hlog.turn going free hys hlog', List.append_cancel_left hseen, hmade', hendpoint,
      hendpoint ▸ hmade'.target_eq, hpost⟩

/-- After an active ping with a redirect, a batch is posted where the redirect says. -/
theorem contact_each_cycle_of_redirect :
    let text (s : String) := Text.Utf8.encode s.toList
    let plan : Http.Plan Backlog := .make .answers 200
      [(text "x-live-metrics-subscribed", text "true"),
        (text "x-live-metrics-endpoint-redirect", text "http://b")] [] id
    let w := atSite (fun _ _ => .blank) none
    let i : Intervals := ⟨10, 20, 30⟩
    let o : Outbox := ⟨1, Fifo.empty, true, true⟩
    let s₀ := State.opening 0 false none
      ⟨Uplink.make "http://a" "agent" 1000, o, 0, ⟨[plan], [], Backlog.make 8 "agent"⟩⟩
    let s := (s₀.start i).turn (partners w) i
    let t := s.turn (partners w) i
    Outbox.make 1 = .ok o ∧ s.mode = .sending ∧ s.told = false ∧
      t.partners.world.requests.map (fun r => r.url.text) =
        ["http://a/live/v1/ping", "http://b/live/v1/post"] ∧
      ∃ xs, Runs (partners w) i s₀ xs s ∧ ∃ ys log p,
        Logs w i s₀ (xs ++ ys) (log ++ [.post p]) t ∧
        p.attempt.target = "http://b/live/v1/post" := by
  intro text plan w i o s₀ s t
  have ho : Outbox.make 1 = .ok o := rfl
  have hmode : s.mode = .sending := by decide +kernel
  have hfree : s.told = false := by decide +kernel
  have hendpoint : s.endpoint.1 = some "http://b" := by decide +kernel
  have hrequests : t.partners.world.requests.map (fun r => r.url.text) =
      ["http://a/live/v1/ping", "http://b/live/v1/post"] := by
    decide +kernel
  have hr : Runs (partners w) i s₀ _ s := Runs.start.turn (by decide) rfl rfl
  obtain ⟨-, -, log, -, -, -, -, -, -, hnext⟩ := contact_each_cycle ho hr
  obtain ⟨ys, c, hlogs, -, -, -, htarget, hpost⟩ := hnext (by rw [hmode]; decide) hfree
  obtain ⟨p, rfl⟩ := hpost hmode
  have hplace : (Uplink.make "http://a" "agent" 1000).target (some "http://b") Uplink.postPath =
      "http://b/live/v1/post" := by
    decide +kernel
  rw [hendpoint] at htarget
  exact ⟨ho, hmode, hfree, hrequests, _, hr, ys, log, p, hlogs, htarget.trans hplace⟩

end Agent

end LiveTelemetry
