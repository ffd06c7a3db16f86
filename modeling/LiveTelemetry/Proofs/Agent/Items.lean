import LiveTelemetry.Proofs.Agent.Contact
/-!
Where the items are that were recorded on an agent's host. Main statement: each was given up for
want of room, or waits, or went out in one batch, which the service took or which was given up.
-/
namespace LiveTelemetry

open Loop (Exchange Runs State Visits Watched)
open Telemetry (Batch Item)
open Uplink (Contact)

namespace Backlog

open Agent (recordAll)

/-- The items that make room as items are recorded, in their order. -/
def evictees : List Item → Backlog → List Item
  | [], _ => []
  | i :: items, b => b.leaving ++ evictees items (b.record i)

theorem recordAll_append (xs ys : List Item) (b : Backlog) :
    recordAll (xs ++ ys) b = recordAll ys (recordAll xs b) := by
  simp [recordAll]

theorem evictees_append (xs ys : List Item) (b : Backlog) :
    evictees (xs ++ ys) b = evictees xs b ++ evictees ys (recordAll xs b) := by
  induction xs generalizing b with
  | nil => rfl
  | cons i xs ih =>
    rw [List.cons_append, evictees, evictees, ih, List.append_assoc]
    rfl

/-- Items come in at one end, and leave at the other. -/
theorem evictees_append_waiting (items : List Item) (b : Backlog) :
    evictees items b ++ (recordAll items b).waiting.toList = b.waiting.toList ++ items := by
  induction items generalizing b with
  | nil => simp [evictees, recordAll]
  | cons i items ih =>
    have hrest : evictees items (b.record i) ++ (recordAll (i :: items) b).waiting.toList =
        (b.record i).waiting.toList ++ items := ih (b.record i)
    rw [evictees, List.append_assoc, hrest, ← List.append_assoc, b.leaving_append_waiting,
      List.append_assoc, List.singleton_append]

theorem recordAll_tally (items : List Item) (b : Backlog) :
    (recordAll items b).tally = { b.tally with
      received := b.tally.received + items.length
      dropped := b.tally.dropped + (evictees items b).length } := by
  induction items generalizing b with
  | nil => simp [evictees, recordAll]
  | cons i items ih =>
    have hrest : (recordAll (i :: items) b).tally = _ := ih (b.record i)
    rw [hrest, record_tally, evictees, ← length_leaving]
    simp only [List.length_append, List.length_cons]
    congr 1
    · omega
    · omega

end Backlog

namespace Uplink

variable {l : Http.Link σ} {R : σ → σ → Prop}

theorem inquiry_beyond (refl : ∀ s, R s s) (trans : ∀ {s t v}, R s t → R t v → R s v)
    (carry : ∀ r s, R s (l.carry r s).beyond) (u : Uplink) (time : Instant)
    (endpoint : Option String) (s : σ) : R s (u.inquiry l time endpoint s).beyond := by
  rw [inquiry]
  exact Http.Link.post_beyond refl trans carry _ _ _ s

theorem exchange_beyond (refl : ∀ s, R s s) (trans : ∀ {s t v}, R s t → R t v → R s v)
    (carry : ∀ r s, R s (l.carry r s).beyond) (u : Uplink) (b : Batch) (s : σ) :
    R s (u.exchange l b s).beyond := by
  rw [exchange]
  exact Http.Link.post_beyond refl trans carry _ _ _ s

end Uplink

namespace Agent

open Backlog (evictees)
open scoped List

/-- What is known of a host: the items recorded there, and those that were given up for want of
room. -/
structure Ledger (σ : Type) where
  recorded : σ → List Item
  evicted : σ → List Item

/-- On the host that is in state `t` nothing happened to the backlog `b` but that items were
recorded. -/
def Grown (w : Setting σ) (k : Ledger σ) (b : Backlog) (s t : σ) : Prop :=
  ∃ items, w.backlog t = recordAll items b ∧ k.recorded t = k.recorded s ++ items ∧
    k.evicted t = k.evicted s ++ evictees items b

/-- The host does nothing with its backlog but record items: as time passes, while a request is
under way, and while a batch is made. -/
structure OnlyRecords (w : Setting σ) (k : Ledger σ) : Prop where
  elapse : ∀ now s, Grown w k (w.backlog s) s (w.elapse now s)
  carry : ∀ r s, Grown w k (w.backlog s) s (w.link.carry r s).beyond
  keep : ∀ b s, Grown w k b s (w.keep b s)

section

variable {w : Setting σ} {k : Ledger σ}

theorem Grown.refl (s : σ) : Grown w k (w.backlog s) s s :=
  ⟨[], rfl, by simp, by simp [evictees]⟩

theorem Grown.trans {b : Backlog} {s t v : σ} (h : Grown w k b s t)
    (h' : Grown w k (w.backlog t) t v) : Grown w k b s v := by
  obtain ⟨xs, hb, hr, he⟩ := h
  obtain ⟨ys, hb', hr', he'⟩ := h'
  rw [hb] at hb' he'
  refine ⟨xs ++ ys, ?_, ?_, ?_⟩
  · rw [hb', Backlog.recordAll_append]
  · rw [hr', hr, List.append_assoc]
  · rw [he', he, Backlog.evictees_append, List.append_assoc]

theorem OnlyRecords.inquiry (h : OnlyRecords w k) (u : Uplink) (time : Instant)
    (endpoint : Option String) (s : σ) :
    Grown w k (w.backlog s) s (u.inquiry w.link time endpoint s).beyond :=
  Uplink.inquiry_beyond (R := fun s t => Grown w k (w.backlog s) s t) Grown.refl Grown.trans
    h.carry u time endpoint s

theorem OnlyRecords.exchange (h : OnlyRecords w k) (u : Uplink) (b : Batch) (s : σ) :
    Grown w k (w.backlog s) s (u.exchange w.link b s).beyond :=
  Uplink.exchange_beyond (R := fun s t => Grown w k (w.backlog s) s t) Grown.refl Grown.trans
    h.carry u b s

end

/-- The items of the batches that were posted. -/
def posted (posts : List Uplink.Post) : List Item := posts.flatMap fun p => p.batch.items

/-- Where the items are that were recorded, and what was counted. -/
structure Accounted (b : Backlog) (recorded evicted : List Item) (posts : List Uplink.Post)
    (t : UplinkTally) : Prop where
  parts : recorded.Perm (evicted ++ b.waiting.toList ++ posted posts)
  order : (posted posts ++ b.waiting.toList).Sublist recorded
  received : b.tally.received = recorded.length
  evictions : b.tally.dropped = evicted.length
  prepared : b.tally.prepared = (posted posts).length
  made : b.tally.batches = posts.length
  batches : t.batches = (posts.filter Uplink.Post.taken).length
  items : t.items = (posted (posts.filter Uplink.Post.taken)).length
  dropped : t.dropped = (posts.filter fun p => !p.taken).length

namespace Accounted

variable {b : Backlog} {recorded evicted : List Item} {posts : List Uplink.Post}

/-- An item that is recorded waits, and those that make room for it are given up. -/
theorem record {t : UplinkTally} (h : Accounted b recorded evicted posts t) (items : List Item) :
    Accounted (recordAll items b) (recorded ++ items) (evicted ++ evictees items b) posts t := by
  have hparts := Backlog.evictees_append_waiting items b
  have htally := Backlog.recordAll_tally items b
  refine ⟨?_, ?_, ?_, ?_, ?_, ?_, h.batches, h.items, h.dropped⟩
  · have hmoved : (b.waiting.toList ++ posted posts ++ items).Perm
        (b.waiting.toList ++ items ++ posted posts) := by
      rw [List.append_assoc, List.append_assoc]
      exact List.perm_append_comm.append_left _
    calc recorded ++ items
      _ ~ evicted ++ b.waiting.toList ++ posted posts ++ items := h.parts.append_right items
      _ ~ evicted ++ (b.waiting.toList ++ items ++ posted posts) := by
        rw [List.append_assoc evicted, List.append_assoc evicted]
        exact hmoved.append_left evicted
      _ = evicted ++ evictees items b ++ (recordAll items b).waiting.toList ++ posted posts := by
        simp only [← hparts, List.append_assoc]
  · have hlate : (recordAll items b).waiting.toList.Sublist (b.waiting.toList ++ items) := by
      rw [← hparts]
      exact List.sublist_append_right _ _
    calc posted posts ++ (recordAll items b).waiting.toList
      _ <+ posted posts ++ (b.waiting.toList ++ items) := hlate.append_left (posted posts)
      _ = posted posts ++ b.waiting.toList ++ items := (List.append_assoc ..).symm
      _ <+ recorded ++ items := h.order.append (List.Sublist.refl items)
  · rw [htally, h.received, List.length_append]
  · rw [htally, h.evictions, List.length_append]
  · rw [htally]
    exact h.prepared
  · rw [htally]
    exact h.made

/-- All that waits goes out in a batch, and the uplink counts how that went. -/
theorem post {u : Uplink} (h : Accounted b recorded evicted posts u.tally) {p : Uplink.Post}
    (hp : p.batch.items = b.waiting.toList) :
    Accounted (b.drain.2.1.count p.batch.size) recorded evicted (posts ++ [p])
      (u.settlePost p 0).tally := by
  have hposted : posted (posts ++ [p]) = posted posts ++ b.waiting.toList := by
    simp [posted, hp]
  have hmade : b.tally.batches + 1 = (posts ++ [p]).length := by
    rw [List.length_append, List.length_singleton, h.made]
  have hsize : p.batch.size = b.waiting.toList.length := congrArg List.length hp
  have hprepared : b.tally.prepared + p.batch.size = (posted (posts ++ [p])).length := by
    rw [hposted, List.length_append, h.prepared, hsize]
  have hparts : recorded ~ evicted ++ [] ++ posted (posts ++ [p]) := by
    refine h.parts.trans ?_
    rw [hposted, List.append_nil, List.append_assoc]
    exact List.perm_append_comm.append_left evicted
  have horder : (posted (posts ++ [p]) ++ []) <+ recorded := by
    rw [hposted, List.append_nil]
    exact h.order
  cases ho : p.outcome with
  | ok d =>
    have htaken := Uplink.Post.taken_of_ok ho
    rw [Uplink.settlePost_taken ho]
    refine ⟨hparts, horder, h.received, h.evictions, hprepared, hmade, ?_, ?_, ?_⟩
    · simp [Uplink.countBatch, h.batches, htaken]
    · simp [Uplink.countBatch, h.items, htaken, posted, Batch.size]
    · simp [Uplink.countBatch, h.dropped, htaken]
  | error e =>
    have htaken := Uplink.Post.not_taken_of_error ho
    rw [Uplink.settlePost_refused ho]
    refine ⟨hparts, horder, h.received, h.evictions, hprepared, hmade, ?_, ?_, ?_⟩
    · simp [Uplink.countFailure, h.batches, htaken]
    · simp [Uplink.countFailure, h.items, htaken]
    · simp [Uplink.countFailure, h.dropped, htaken]

theorem grown {w : Setting σ} {k : Ledger σ} {s v : σ} {t : UplinkTally}
    (h : Accounted b (k.recorded s) (k.evicted s) posts t) (hv : Grown w k b s v) :
    Accounted (w.backlog v) (k.recorded v) (k.evicted v) posts t := by
  obtain ⟨items, hb, hr, he⟩ := hv
  rw [hb, hr, he]
  exact h.record items

/-- A ping takes no items. -/
theorem settlePing {u : Uplink} (h : Accounted b recorded evicted posts u.tally)
    (r : Except Http.Failure Http.Answer) :
    Accounted b recorded evicted posts (u.settlePing r).tally := by
  unfold Uplink.settlePing
  split
  · exact ⟨h.parts, h.order, h.received, h.evictions, h.prepared, h.made, h.batches, h.items,
      h.dropped⟩
  · exact ⟨h.parts, h.order, h.received, h.evictions, h.prepared, h.made, h.batches, h.items,
      h.dropped⟩

end Accounted

/-- An agent is ready for the next cycle, and its items are accounted for. -/
structure Stocked (w : Setting σ) (k : Ledger σ) (a : Logged σ) : Prop where
  ready : a.agent.outbox.Ready
  accounted : Accounted (w.backlog a.agent.world) (k.recorded a.agent.world)
    (k.evicted a.agent.world) (a.log.filterMap Contact.post?) a.agent.uplink.tally

theorem Stocked.turn {w : Setting σ} {k : Ledger σ} {i : Intervals}
    {s : State (Watched (Logged σ))} (hw : OnlyRecords w k) (h : Stocked w k s.partners.partners)
    (going : s.mode ≠ .stopped) :
    Stocked w k (s.turn (logged w).watched i).partners.partners := by
  let a := s.partners.partners.agent
  have hpast := h.accounted.grown (hw.elapse s.clock a.world)
  rcases turn_cases (w := w) (i := i) h.ready going with ⟨-, -, hp⟩ | ⟨-, later, -, hp⟩
  · rw [hp]
    refine ⟨h.ready, ?_⟩
    have hpost : (s.partners.partners.log ++ [a.pingContact w s.clock s.endpoint.1]).filterMap
        Contact.post? = s.partners.partners.log.filterMap Contact.post? := by
      simp [pingContact, Uplink.asking, Contact.post?]
    rw [hpost]
    exact (hpast.grown (hw.inquiry a.uplink _ _ _)).settlePing _
  · rw [hp]
    refine ⟨h.ready, ?_⟩
    let batch := a.nextBatch w s.clock s.endpoint.1
    let kept := a.batched w s.clock s.endpoint.1
    let q := a.uplink.post w.link batch (w.elapse later kept)
    have hitems : batch.items = (w.backlog (w.elapse s.clock a.world)).waiting.toList := rfl
    have hposted := hpast.post (u := a.uplink) (p := q) hitems
    have hgrown := ((hw.keep _ _).trans (hw.elapse later kept)).trans
      (hw.exchange a.uplink batch _)
    have hpost : (s.partners.partners.log ++ [Contact.post q]).filterMap Contact.post? =
        s.partners.partners.log.filterMap Contact.post? ++ [q] := by
      simp [Contact.post?]
    rw [hpost]
    exact hposted.grown hgrown

theorem Stocked.of_visits {w : Setting σ} {k : Ledger σ} {i : Intervals} {clock : Nat}
    {before : Bool} {wait : Option Nat} {a : Agent σ} {s : State (Watched (Logged σ))}
    (hw : OnlyRecords w k) (h₀ : Stocked w k ⟨a, []⟩)
    (h : Visits (logged w).watched i ((State.opening clock before wait ⟨a, []⟩).watch []) s) :
    Stocked w k s.partners.partners := by
  induction h with
  | start =>
    cases before with
    | false => exact h₀
    | true => exact h₀
  | turn _ going _ ih => exact ih.turn hw going
  | finish _ _ _ ih => exact ih

theorem Logs.stocked {w : Setting σ} {k : Ledger σ} {i : Intervals} {clock : Nat} {before : Bool}
    {wait : Option Nat} {a : Agent σ} {xs : List Exchange} {log : List Contact}
    {s : State (Agent σ)} (hw : OnlyRecords w k) (h₀ : Stocked w k ⟨a, []⟩)
    (h : Logs w i (State.opening clock before wait a) xs log s) :
    Stocked w k ⟨s.partners, log⟩ := by
  have hcontacts := h.contacts
  rw [keeping_opening] at hcontacts
  exact Stocked.of_visits hw h₀ hcontacts

/-- What was recorded before the loop runs waits, or made room. -/
theorem Stocked.of_fresh {w : Setting σ} {k : Ledger σ} {endpoint name : String}
    {timeout slots capacity stamps : Nat} {source : String} {o : Outbox} {world : σ}
    (ho : Outbox.make slots = .ok o)
    (hb : w.backlog world = recordAll (k.recorded world) (Backlog.make capacity source))
    (he : k.evicted world = evictees (k.recorded world) (Backlog.make capacity source)) :
    Stocked w k ⟨⟨Uplink.make endpoint name timeout, o, stamps, world⟩, []⟩ := by
  have hnone : Accounted (Backlog.make capacity source) [] [] [] UplinkTally.zero :=
    ⟨.nil, .slnil, rfl, rfl, rfl, rfl, rfl, rfl, rfl⟩
  have hsome := hnone.record (k.recorded world)
  rw [← hb, ← he] at hsome
  exact ⟨Outbox.Ready.of_make ho, hsome⟩

theorem posted_perm (posts : List Uplink.Post) :
    posted posts ~ posted (posts.filter Uplink.Post.taken) ++
      posted (posts.filter fun p => !p.taken) := by
  rw [posted, posted, posted, ← List.flatMap_append]
  exact (List.filter_append_perm Uplink.Post.taken posts).symm.flatMap_right _

/-- Each item that was recorded was given up for want of room, or waits, or went out in one batch,
which the service took or which was given up. Items go out in the order in which they were
recorded. The posts of the batches are those that the link carried. -/
theorem items_accounted {w : Setting σ} {k : Ledger σ} {i : Intervals} {clock : Nat} {before : Bool}
    {wait : Option Nat} {endpoint name source : String} {timeout slots capacity stamps : Nat}
    {o : Outbox} {world : σ} {xs : List Exchange} {s : State (Agent σ)} (hw : OnlyRecords w k)
    (ho : Outbox.make slots = .ok o)
    (hb : w.backlog world = recordAll (k.recorded world) (Backlog.make capacity source))
    (he : k.evicted world = evictees (k.recorded world) (Backlog.make capacity source))
    (h : Runs (partners w) i
      (State.opening clock before wait ⟨Uplink.make endpoint name timeout, o, stamps, world⟩)
      xs s) :
    ∃ log, Logs w i
        (State.opening clock before wait ⟨Uplink.make endpoint name timeout, o, stamps, world⟩)
        xs log s ∧
      (∀ c ∈ log, c.Made (Uplink.make endpoint name timeout)) ∧
      ∀ host, Grown w k (w.backlog s.partners.world) s.partners.world host →
        let posts := log.filterMap Contact.post?
        let sent := posts.filter Uplink.Post.taken
        let failed := posts.filter fun p => !p.taken
        let b := w.backlog host
        let t := s.partners.uplink.tally
        k.recorded host ~
          k.evicted host ++ b.waiting.toList ++ posted sent ++ posted failed ∧
        (posted posts ++ b.waiting.toList) <+ k.recorded host ∧
        ((k.recorded host).Nodup → posts.Pairwise fun p q =>
          ∀ x ∈ p.batch.items, ∀ y ∈ q.batch.items, x ≠ y) ∧
        t.batches = sent.length ∧ t.dropped = failed.length ∧
        t.items = (posted sent).length ∧
        b.tally.received = (k.recorded host).length ∧
        b.tally.dropped = (k.evicted host).length ∧
        b.tally.received =
          b.tally.dropped + b.waiting.size + t.items + (posted failed).length := by
  obtain ⟨log, hlog⟩ := exists_log h
  refine ⟨log, hlog, (hlog.candid (Outbox.Ready.of_make ho)).made, ?_⟩
  intro host hhost posts sent failed b t
  have hstocked := hlog.stocked hw (Stocked.of_fresh ho hb he)
  have ha : Accounted b (k.recorded host) (k.evicted host) posts t := hstocked.accounted.grown hhost
  have hsplit : posted posts ~ posted sent ++ posted failed := posted_perm posts
  have hparts : k.recorded host ~
      k.evicted host ++ b.waiting.toList ++ posted sent ++ posted failed := by
    rw [List.append_assoc _ (posted sent)]
    exact ha.parts.trans (hsplit.append_left _)
  refine ⟨hparts, ha.order, ?_, ha.batches, ha.dropped, ha.items, ha.received, ha.evictions, ?_⟩
  · intro hnodup
    have hposted : (posted posts).Nodup :=
      ((List.sublist_append_left _ _).trans ha.order).nodup hnodup
    exact (List.pairwise_flatMap.1 hposted).2
  · rw [ha.received, ha.evictions, ha.items, ← Fifo.length_toList, hparts.length_eq]
    simp only [List.length_append]
    rfl

/-- A host that keeps a ledger. What the service delivers next is known beforehand, with the items
that are recorded meanwhile. -/
structure Yard where
  coming : List (Http.Delivery × List Item)
  backlog : Backlog
  recorded : List Item
  evicted : List Item

namespace Yard

def record (y : Yard) (items : List Item) : Yard :=
  { y with
    backlog := recordAll items y.backlog
    recorded := y.recorded ++ items
    evicted := y.evicted ++ evictees items y.backlog }

def link : Http.Link Yard where
  carry _ y := match y.coming with
    | [] => ⟨.lost, 0, y⟩
    | (d, items) :: rest => ⟨d, 0, { y.record items with coming := rest }⟩

def setting : Setting Yard where
  link := link
  backlog := backlog
  keep b y := { y with backlog := b }
  elapse _ y := y
  stamp _ _ := .blank
  stops _ _ := false

def ledger : Ledger Yard := ⟨recorded, evicted⟩

theorem onlyRecords : OnlyRecords setting ledger where
  elapse _ y := Grown.refl (w := setting) (k := ledger) y
  carry r y := by
    simp only [setting, link]
    split
    · exact Grown.refl (w := setting) (k := ledger) y
    · rename_i items _ _
      exact ⟨items, rfl, rfl, rfl⟩
  keep b y := ⟨[], rfl, (List.append_nil _).symm, (List.append_nil _).symm⟩

end Yard

/-- Of four items the first makes room, the second is lost on its way, the third is taken and the
last still waits. -/
theorem items_accounted_of_lost_post :
    let text (s : String) := Text.Utf8.encode s.toList
    let item := Item.make .blank .event
    let wanted := (Http.Plan.make .answers 200
      [(text "x-live-metrics-subscribed", text "true")] [] (id : Yard → Yard)).delivery
    let y : Yard := ⟨[(wanted, [item "a", item "b"]), (.lost, [item "c"]), (wanted, [item "d"])],
      Backlog.make 1 "agent", [], []⟩
    let i : Intervals := ⟨10, 20, 30⟩
    let o : Outbox := ⟨1, Fifo.empty, true, true⟩
    let p := partners Yard.setting
    let s₀ := State.opening 0 false none ⟨Uplink.make "http://a" "agent" 1000, o, 0, y⟩
    let s := (((s₀.start i).turn p i).turn p i).turn p i
    let host := s.partners.world
    Outbox.make 1 = .ok o ∧ host.recorded.map Item.name = ["a", "b", "c", "d"] ∧
      host.evicted.map Item.name = ["a"] ∧ host.backlog.waiting.toList.map Item.name = ["d"] ∧
      ∃ xs, Runs p i s₀ xs s ∧ ∃ log, Logs Yard.setting i s₀ xs log s ∧
        let posts := log.filterMap Contact.post?
        let sent := posts.filter Uplink.Post.taken
        let failed := posts.filter fun q => !q.taken
        host.recorded ~
          host.evicted ++ host.backlog.waiting.toList ++ posted sent ++ posted failed ∧
        (posted sent).length = 1 ∧ (posted failed).length = 1 := by
  intro text item wanted y i o p s₀ s host
  have ho : Outbox.make 1 = .ok o := rfl
  have hnames : host.recorded.map Item.name = ["a", "b", "c", "d"] ∧
      host.evicted.map Item.name = ["a"] ∧
      host.backlog.waiting.toList.map Item.name = ["d"] ∧ s.partners.uplink.tally.items = 1 := by
    decide +kernel
  obtain ⟨hrecorded, hevicted, hwaiting, htally⟩ := hnames
  have hr : Runs p i s₀ _ s :=
    ((Runs.start.turn (by decide) rfl rfl).turn (by decide +kernel) (by decide +kernel) rfl).turn
      (by decide +kernel) (by decide +kernel) rfl
  obtain ⟨log, hlog, -, hhost⟩ := items_accounted Yard.onlyRecords ho rfl rfl hr
  obtain ⟨hparts, -, -, -, -, hitems, -⟩ := hhost host (Grown.refl (w := Yard.setting) host)
  have hsent := hitems.symm.trans htally
  simp only [Yard.ledger, Yard.setting] at hparts
  refine ⟨ho, hrecorded, hevicted, hwaiting, _, hr, log, hlog, ?_⟩
  intro posts sent failed
  refine ⟨hparts, hsent, ?_⟩
  have hall : host.recorded.length =
      host.evicted.length + host.backlog.waiting.toList.length + (posted sent).length +
        (posted failed).length := by
    rw [← List.length_append, ← List.length_append, ← List.length_append]
    exact hparts.length_eq
  have hfour := congrArg List.length hrecorded
  have hfirst := congrArg List.length hevicted
  have hlast := congrArg List.length hwaiting
  rw [List.length_map] at hfour hfirst hlast
  rw [hfour, hfirst, hlast, hsent] at hall
  exact Nat.add_left_cancel hall.symm

end Agent

end LiveTelemetry
