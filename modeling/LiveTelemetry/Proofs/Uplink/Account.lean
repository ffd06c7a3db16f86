import LiveTelemetry.Http.Site
import LiveTelemetry.Proofs.Buffer.Window
import LiveTelemetry.Proofs.Uplink.Session
/-!
What an uplink counts when any number of callers use it at once. Main statement: every batch that
was taken out of the outbox is counted once, with the service or as given up, and every request
once, as it went; and the requests that are counted are those that the link carried.
-/
namespace LiveTelemetry.Uplink

open Telemetry (Batch)

namespace Shipment

/-- The batches of a call that the service took. -/
def delivered (c : Shipment) : List Batch := (c.posted.filter Post.taken).map Post.batch

/-- The batches that a call is still to post. -/
def ahead (c : Shipment) : List Batch := if c.result.isSome then [] else c.left

def failed (c : Shipment) : Bool := c.result.any fun r => !r.isOk

theorem next_of_taken {p : Post} {d : Directive} (h : p.outcome = .ok d) (posted : List Post)
    (left rest : List Batch) :
    let c : Shipment := ⟨posted, left, none⟩
    (c.next p rest).delivered = c.delivered ++ [p.batch] ∧ (c.next p rest).ahead = rest ∧
    (c.next p rest).failed = false := by
  cases rest <;>
    simp [next, delivered, ahead, failed, h, Post.taken_of_ok h, Except.isOk, Except.toBool]

theorem next_of_refused {p : Post} {e : Error} (h : p.outcome = .error e) (posted : List Post)
    (left rest : List Batch) :
    let c : Shipment := ⟨posted, left, none⟩
    (c.next p rest).delivered = c.delivered ∧ (c.next p rest).ahead = [] ∧
    (c.next p rest).failed = true := by
  simp [next, delivered, ahead, failed, h, Post.not_taken_of_error h, Except.isOk, Except.toBool]

/-- Each post of a call was taken, but for the last one of a call that failed. -/
theorem Proper.length_posted {c : Shipment} (h : c.Proper) :
    c.posted.length = c.delivered.length + if c.failed then 1 else 0 := by
  cases h with
  | underway taken more =>
    simp [delivered, Shipment.failed, List.filter_eq_self.2 taken]
  | done taken =>
    simp [delivered, Shipment.failed, List.filter_eq_self.2 taken, Except.isOk, Except.toBool]
  | failed taken refused =>
    simp [delivered, Shipment.failed, List.filter_eq_self.2 taken, Except.isOk, Except.toBool,
      Post.not_taken_of_error refused]

end Shipment

namespace Session

section

variable {l : Http.Link σ} {s : Session σ}

/-- What is true of an uplink in use: where its batches are, how far its calls have come, and what
it counted. -/
structure Balanced (s : Session σ) : Prop where
  whole : s.calls.flatMap Shipment.taken ++ s.outbox.queued.toList = s.queued
  proper : ∀ c ∈ s.calls, c.Proper
  posts : (s.contacts.filterMap Contact.post?).Perm (s.calls.flatMap Shipment.posted)
  pings : s.uplink.tally.pings = (s.contacts.filterMap Contact.ping?).countP Except.isOk
  batches : s.uplink.tally.batches = (s.calls.flatMap Shipment.delivered).length
  items : s.uplink.tally.items = ((s.calls.flatMap Shipment.delivered).flatMap Batch.items).length
  failures : s.uplink.tally.failures =
    (s.contacts.filterMap Contact.ping?).countP (fun r => !r.isOk) +
      s.calls.countP Shipment.failed
  dropped : (s.calls.flatMap Shipment.taken).length =
    s.uplink.tally.batches + s.uplink.tally.dropped + (s.calls.flatMap Shipment.ahead).length

theorem Balanced.of_fresh (endpoint name : String) (timeout : Nat) (o : Outbox) (w : σ) :
    Balanced (fresh endpoint name timeout o w) := by
  refine ⟨?_, ?_, ?_, ?_, ?_, ?_, ?_, ?_⟩ <;> simp [fresh, Uplink.make, UplinkTally.zero]

theorem Balanced.queue (h : Balanced s) (b : Batch) : Balanced (s.step l (.queue b)) := by
  cases ho : s.outbox.push b with
  | error e =>
    have hs : s.step l (.queue b) = s := by simp [step, ho]
    rw [hs]
    exact h
  | ok o =>
    have hs : s.step l (.queue b) = { s with outbox := o, queued := s.queued ++ [b] } := by
      simp [step, ho]
    rw [hs]
    refine ⟨?_, h.proper, h.posts, h.pings, h.batches, h.items, h.failures, h.dropped⟩
    rw [Outbox.toList_of_push ho, ← List.append_assoc, h.whole]

theorem Balanced.finish (h : Balanced s) : Balanced (s.step l .finish) :=
  ⟨h.whole, h.proper, h.posts, h.pings, h.batches, h.items, h.failures, h.dropped⟩

theorem Balanced.ping (h : Balanced s) (time : Instant) (there : Option String) :
    Balanced (s.step l (.ping time there)) := by
  obtain ⟨whole, proper, posts, pings, batches, items, failures, dropped⟩ := h
  let c := s.uplink.asking l time there s.beyond
  let e := s.uplink.ping l time there s.beyond
  have hs : s.step l (.ping time there) =
      { s with uplink := e.uplink, beyond := e.beyond, contacts := s.contacts ++ [c] } := rfl
  have hposts : (s.contacts ++ [c]).filterMap Contact.post? =
      s.contacts.filterMap Contact.post? := by
    simp [c, asking, Contact.post?]
  have hpings : (s.contacts ++ [c]).filterMap Contact.ping? =
      s.contacts.filterMap Contact.ping? ++ [c.outcome] := by
    simp [c, asking, Contact.ping?, Contact.outcome, Contact.attempt]
  obtain ⟨-, hu, -⟩ := ping_eq s.uplink l time there s.beyond
  have hv : verdict (s.uplink.inquiry l time there s.beyond).outcome = c.outcome := by
    rw [← asking_response]
    rfl
  have hup : e.uplink = s.uplink.settlePing (s.uplink.inquiry l time there s.beyond).outcome := hu
  rw [hs]
  cases ho : c.outcome with
  | ok d =>
    have hcount : e.uplink = s.uplink.countPing := by rw [hup, settlePing, hv, ho]
    rw [hcount]
    refine ⟨whole, proper, ?_, ?_, batches, items, ?_, dropped⟩
    · rw [hposts]
      exact posts
    · rw [hpings, ho]
      simp [countPing, pings, Except.isOk, Except.toBool]
    · rw [hpings, ho]
      simp [countPing, failures, Except.isOk, Except.toBool]
  | error err =>
    have hcount : e.uplink = s.uplink.countFailure 0 := by rw [hup, settlePing, hv, ho]
    rw [hcount]
    refine ⟨whole, proper, ?_, ?_, batches, items, ?_, dropped⟩
    · rw [hposts]
      exact posts
    · rw [hpings, ho]
      simp [countFailure, pings, Except.isOk, Except.toBool]
    · rw [hpings, ho]
      simp only [countFailure, failures, List.countP_append]
      simp [Except.isOk, Except.toBool]
      omega

theorem Balanced.take (h : Balanced s) : Balanced (s.step l .take) := by
  obtain ⟨whole, proper, posts, pings, batches, items, failures, dropped⟩ := h
  let c := Shipment.make s.outbox.queued.toList
  have htaken : c.taken = s.outbox.queued.toList := rfl
  have hposted : c.posted = [] := rfl
  have hdelivered : c.delivered = [] := rfl
  have hahead : c.ahead = s.outbox.queued.toList := by
    cases hq : s.outbox.queued.toList <;>
      simp [c, Shipment.make, Shipment.going, Shipment.ahead, hq]
  have hfailed : c.failed = false := by
    cases hq : s.outbox.queued.toList <;>
      simp [c, Shipment.make, Shipment.going, Shipment.failed, hq, Except.isOk, Except.toBool]
  have hs : s.step l .take =
      { s with outbox := s.outbox.takeAll.2, calls := s.calls ++ [c] } := rfl
  rw [hs]
  refine ⟨?_, ?_, ?_, pings, ?_, ?_, ?_, ?_⟩
  · simpa [Outbox.takeAll, htaken] using whole
  · rw [List.forall_mem_append, List.forall_mem_singleton]
    exact ⟨proper, Shipment.make_proper _⟩
  · simpa [hposted] using posts
  · simpa [hdelivered] using batches
  · simpa [hdelivered] using items
  · simpa [hfailed] using failures
  · simp [htaken, hahead, dropped]
    omega

/-- One call came further, and the uplink counted what the call did. -/
theorem Balanced.replace (h : Balanced s) {before after : List Shipment} {c c' : Shipment}
    {p : Post} {u : Uplink} (w : σ) (calls : s.calls = before ++ c :: after)
    (posted : c'.posted = c.posted ++ [p]) (taken : c'.taken = c.taken) (proper : c'.Proper)
    (pings : u.tally.pings = s.uplink.tally.pings)
    (batches : u.tally.batches + c.delivered.length =
      s.uplink.tally.batches + c'.delivered.length)
    (items : u.tally.items + (c.delivered.flatMap Batch.items).length =
      s.uplink.tally.items + (c'.delivered.flatMap Batch.items).length)
    (failures : u.tally.failures + (if c.failed then 1 else 0) =
      s.uplink.tally.failures + if c'.failed then 1 else 0)
    (dropped : u.tally.batches + u.tally.dropped + c'.ahead.length =
      s.uplink.tally.batches + s.uplink.tally.dropped + c.ahead.length) :
    Balanced { s with
      uplink := u
      beyond := w
      contacts := s.contacts ++ [.post p]
      calls := before ++ c' :: after } := by
  obtain ⟨hwhole, hproper, hposts, hpings, hbatches, hitems, hfailures, hdropped⟩ := h
  simp only [calls, List.flatMap_append, List.flatMap_cons, List.countP_append, List.countP_cons,
    List.length_append] at hwhole hposts hbatches hitems hfailures hdropped
  have hsame : (s.contacts ++ [Contact.post p]).filterMap Contact.ping? =
      s.contacts.filterMap Contact.ping? := by
    simp [Contact.ping?]
  rw [calls, List.forall_mem_append, List.forall_mem_cons] at hproper
  obtain ⟨hbefore, -, hafter⟩ := hproper
  refine ⟨?_, ?_, ?_, ?_, ?_, ?_, ?_, ?_⟩
  · simpa [taken] using hwhole
  · rw [List.forall_mem_append, List.forall_mem_cons]
    exact ⟨hbefore, proper, hafter⟩
  · simp only [List.filterMap_append, List.flatMap_append, List.flatMap_cons, posted,
      List.append_assoc]
    refine (hposts.append_right _).trans ?_
    rw [List.append_assoc, List.append_assoc]
    have hmoved : (after.flatMap Shipment.posted ++ [p]).Perm
        ([p] ++ after.flatMap Shipment.posted) :=
      List.perm_append_comm
    exact (hmoved.append_left _).append_left _
  · rw [hsame]
    exact pings.trans hpings
  · simp only [List.flatMap_append, List.flatMap_cons, List.length_append]
    omega
  · simp only [List.flatMap_append, List.flatMap_cons, List.length_append]
    omega
  · rw [hsame]
    simp only [List.countP_append, List.countP_cons]
    omega
  · simp only [List.flatMap_append, List.flatMap_cons, List.length_append, taken]
    omega

theorem Balanced.advance (h : Balanced s) {place : Nat} {posted : List Post} {b : Batch}
    {rest : List Batch} (hc : s.calls[place]? = some ⟨posted, b :: rest, none⟩) :
    Balanced (s.advance l place ⟨posted, b :: rest, none⟩ b rest) := by
  let p := s.uplink.post l b s.beyond
  let w := (s.uplink.exchange l b s.beyond).beyond
  let c : Shipment := ⟨posted, b :: rest, none⟩
  obtain ⟨hlt, hget⟩ := List.getElem?_eq_some_iff.1 hc
  obtain ⟨before, after, hcalls, -, hset⟩ : ∃ before after,
      s.calls = before ++ s.calls[place] :: after ∧ before.length = place ∧
        s.calls.set place (c.next p rest) = before ++ c.next p rest :: after :=
    List.exists_of_set hlt
  rw [hget] at hcalls
  have hopen : c.Proper := h.proper c (by simp [hcalls, c])
  have hproper : (c.next p rest).Proper := Shipment.next_proper hopen.taken_of_open p rest
  have htaken : (c.next p rest).taken = c.taken := by
    simp [Shipment.next, Shipment.taken, c, p, Uplink.post]
  have hahead : c.ahead = b :: rest := rfl
  have hfailed : c.failed = false := rfl
  have hs : s.advance l place c b rest =
      { s with
        uplink := s.uplink.settlePost p rest.length
        beyond := w
        contacts := s.contacts ++ [.post p]
        calls := before ++ c.next p rest :: after } := by
    rw [← hset]
    rfl
  rw [hs]
  cases ho : p.outcome with
  | ok d =>
    obtain ⟨hdelivered', hahead', hfailed'⟩ :=
      Shipment.next_of_taken ho posted (b :: rest) rest
    rw [settlePost_taken ho]
    refine h.replace w hcalls rfl htaken hproper rfl ?_ ?_ ?_ ?_
    · rw [hdelivered', List.length_append, List.length_singleton]
      simp only [countBatch]
      omega
    · have hsize : (List.flatMap Batch.items [p.batch]).length = p.batch.size := by
        rw [List.flatMap_singleton]
        rfl
      rw [hdelivered', List.flatMap_append, List.length_append, hsize]
      simp only [countBatch]
      omega
    · rw [hfailed', hfailed]
      rfl
    · rw [hahead', hahead, List.length_cons]
      simp only [countBatch]
      omega
  | error e =>
    obtain ⟨hdelivered', hahead', hfailed'⟩ :=
      Shipment.next_of_refused ho posted (b :: rest) rest
    rw [settlePost_refused ho]
    refine h.replace w hcalls rfl htaken hproper rfl ?_ ?_ ?_ ?_
    · rw [hdelivered']
      rfl
    · rw [hdelivered']
      rfl
    · rw [hfailed', hfailed]
      rfl
    · rw [hahead', hahead, List.length_cons, List.length_nil]
      simp only [countFailure]
      omega

theorem Balanced.post (h : Balanced s) (place : Nat) : Balanced (s.step l (.post place)) := by
  rcases post_cases (l := l) s place with hs | ⟨posted, b, rest, hc, hs⟩
  · rw [hs]
    exact h
  · rw [hs]
    exact h.advance hc

theorem Balanced.step (h : Balanced s) (m : Move) : Balanced (s.step l m) := by
  cases m with
  | queue b => exact h.queue b
  | finish => exact h.finish
  | ping time there => exact h.ping time there
  | send => exact send_keeps (fun _ h => h.take) (fun _ place h => h.post place) h
  | take => exact h.take
  | post place => exact h.post place

end

/-- Each post of each call was taken, but for the last ones of the calls that failed. -/
theorem length_posted {calls : List Shipment} (h : ∀ c ∈ calls, c.Proper) :
    (calls.flatMap Shipment.posted).length =
      (calls.flatMap Shipment.delivered).length + calls.countP Shipment.failed := by
  induction calls with
  | nil => rfl
  | cons c calls ih =>
    have hc := (h c (by simp)).length_posted
    have hcalls := ih fun d hd => h d (List.mem_cons_of_mem _ hd)
    simp only [List.flatMap_cons, List.length_append, List.countP_cons]
    omega

/-- Each contact was counted once: as a ping, as a batch, or as a failure. -/
theorem Balanced.length_contacts {s : Session σ} (h : Balanced s) :
    s.contacts.length =
      s.uplink.tally.pings + s.uplink.tally.batches + s.uplink.tally.failures := by
  have hpings : (s.contacts.filterMap Contact.ping?).length =
      (s.contacts.filterMap Contact.ping?).countP Except.isOk +
        (s.contacts.filterMap Contact.ping?).countP (fun r => !r.isOk) := by
    simpa using List.length_eq_countP_add_countP Except.isOk
      (l := s.contacts.filterMap Contact.ping?)
  rw [Contact.length_eq, hpings, h.posts.length_eq, length_posted h.proper, ← h.pings,
    ← h.batches, h.failures]
  omega

/-- Each call to send takes all that waits and posts it in its order, up to the first batch that the
service does not take. A batch that came to be in the outbox is there still or was taken by one
call, and the uplink counts what became of it, and what became of its requests. The link carried
what these took and nothing more. -/
theorem tally_balanced (l : Http.Link σ) (w : σ) (endpoint name : String) (timeout : Nat)
    (o : Outbox) (moves : List Move) :
    let s := (fresh endpoint name timeout o (⟨w, []⟩ : Http.Traced σ)).after l.traced moves
    let t := s.uplink.tally
    let queued := s.outbox.queued.toList
    let e := (s.uplink.send l.traced s.outbox s.beyond).1
    let sent := s.step l.traced .send
    s.beyond.carried = s.contacts.flatMap Contact.carried ∧
    (∀ c ∈ s.contacts, c.Made (Uplink.make endpoint name timeout)) ∧
    (s.contacts.filterMap Contact.post?).Perm (s.calls.flatMap Shipment.posted) ∧
    s.calls.flatMap Shipment.taken ++ queued = s.queued ∧
    (∀ c ∈ s.calls, c.Proper) ∧
    t.batches = (s.calls.flatMap Shipment.delivered).length ∧
    t.items = ((s.calls.flatMap Shipment.delivered).flatMap Batch.items).length ∧
    t.failures = (s.contacts.filterMap Contact.ping?).countP (fun r => !r.isOk) +
      s.calls.countP Shipment.failed ∧
    s.contacts.length = t.pings + t.batches + t.failures ∧
    ((∀ c ∈ s.calls, c.result.isSome) →
      (s.calls.flatMap Shipment.taken).length = t.batches + t.dropped) ∧
    (s.step l.traced .take).calls = s.calls ++ [.make queued] ∧
    (s.step l.traced .take).outbox.queued.toList = [] ∧
    sent.uplink = e.uplink ∧ sent.beyond = e.beyond ∧ sent.outbox.queued.toList = [] ∧
    (∃ c : Shipment, sent.calls = s.calls ++ [c] ∧ c.taken = queued ∧ c.Proper ∧
      c.result = some e.outcome ∧ sent.contacts = s.contacts ++ c.posted.map .post ∧
      e.beyond.carried = s.beyond.carried ++ c.posted.flatMap Post.carried ∧
      sent = s.after l.traced
        (.take :: List.replicate c.posted.length (.post s.calls.length))) ∧
    (∀ time there,
      let e := s.uplink.ping l.traced time there s.beyond
      let c := s.uplink.asking l.traced time there s.beyond
      s.step l.traced (.ping time there) =
        { s with uplink := e.uplink, beyond := e.beyond, contacts := s.contacts ++ [c] } ∧
      c.outcome = e.outcome ∧ e.beyond.carried = s.beyond.carried ++ c.carried) := by
  intro s t queued e sent
  have h : Balanced s :=
    after_keeps (fun _ m h => h.step m) (Balanced.of_fresh endpoint name timeout o _) moves
  have ht : Carried _ s := after_carried l endpoint name timeout o w moves
  refine ⟨ht.carried, ht.made, h.posts, h.whole, h.proper, h.batches, h.items, h.failures,
    h.length_contacts, ?_, rfl, rfl, rfl, rfl, rfl, ?_, ?_⟩
  · intro hover
    have hahead : s.calls.flatMap Shipment.ahead = [] := by
      rw [List.flatMap_eq_nil_iff]
      intro c hc
      simp [Shipment.ahead, hover c hc]
    have hdropped := h.dropped
    rw [hahead, List.length_nil] at hdropped
    exact hdropped
  · obtain ⟨c, hcalls, hposted, htaken, hproper, hresult⟩ := exists_shipment (l := l.traced) s
    refine ⟨c, hcalls, htaken, hproper, hresult, ?_, ?_, ?_⟩
    · rw [hposted]
      rfl
    · have hbeyond : e.beyond = (postAll l.traced queued s.uplink s.beyond).beyond := rfl
      rw [hbeyond, hposted, sends, postAll_traced, posts_traced]
    · rw [hposted]
      exact step_send s
  · intro time there e c
    refine ⟨rfl, ?_, ?_⟩
    · have he : e.outcome = verdict (s.uplink.inquiry l.traced time there s.beyond).outcome :=
        (ping_eq s.uplink l.traced time there s.beyond).1
      rw [he, ← asking_response]
      rfl
    · have he : e.beyond = (s.uplink.ping l.traced time there s.beyond).beyond := rfl
      have hc : c = s.uplink.asking l.traced time there s.beyond := rfl
      rw [he, hc, ping_traced, asking_traced]

/-- Of two calls at once, one fails at its second batch of three, and the other one posts a batch
that was queued later. The link carried three requests. -/
theorem tally_balanced_of_two_calls :
    let plan (conduct : Http.Conduct) : Http.Plan Unit := .make conduct 200 [] [] id
    let site : Http.Site Unit := ⟨[plan .answers, plan .closes, plan .answers], [], ()⟩
    let b : Batch := ⟨.blank, "agent", [], none⟩
    let o : Outbox := ⟨8, Fifo.empty, true, true⟩
    let moves : List Move := [.queue b, .queue b, .queue b, .take, .post 0, .queue b, .take,
      .post 0, .post 1]
    ∃ s, (fresh "http://a" "agent" 1000 o (⟨site, []⟩ : Http.Traced (Http.Site Unit))).after
        Http.Site.link.traced moves = s ∧
      (∀ c ∈ s.calls, c.result.isSome) ∧
      (s.calls.flatMap Shipment.taken).length = s.uplink.tally.batches + s.uplink.tally.dropped ∧
      s.uplink.tally = ⟨0, 2, 0, 1, 2⟩ ∧ s.contacts.length = 3 ∧
      (s.contacts.flatMap Contact.carried).length = 3 := by
  intro plan site b o moves
  let s := (fresh "http://a" "agent" 1000 o (⟨site, []⟩ : Http.Traced (Http.Site Unit))).after
    Http.Site.link.traced moves
  have hover : ∀ c ∈ s.calls, c.result.isSome := by decide +kernel
  have htally : s.uplink.tally = ⟨0, 2, 0, 1, 2⟩ := by decide +kernel
  have hthree : s.beyond.carried.length = 3 := by decide +kernel
  clear_value site b o
  obtain ⟨hcarried, -, -, -, -, -, -, -, hcontacts, hcount, -⟩ :=
    tally_balanced Http.Site.link site "http://a" "agent" 1000 o moves
  refine ⟨s, rfl, hover, hcount hover, htally, ?_, ?_⟩
  · rw [hcontacts]
    exact congrArg (fun t : UplinkTally => t.pings + t.batches + t.failures) htally
  · rw [← hcarried]
    exact hthree

end Session

end LiveTelemetry.Uplink
