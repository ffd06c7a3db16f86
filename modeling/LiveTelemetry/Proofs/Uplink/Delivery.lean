import LiveTelemetry.Http.Site
import LiveTelemetry.Proofs.Http.Trail
import LiveTelemetry.Proofs.Uplink.Posts
/-!
What became of the batches that are counted as taken. Main statement: the service was given such a
batch unless it sent its post on in a way that leaves the body behind.
-/
namespace LiveTelemetry.Uplink

open Http (Hop Trail)
open Telemetry (Batch)

/-- A batch that was counted as taken, and the requests that its post led to. -/
structure Receipt where
  batch : Batch
  hops : List Hop

/-- A post with the batch as its body was answered with success. -/
def Receipt.Delivered (c : Receipt) : Prop :=
  ∃ hop ∈ c.hops, hop.request.method = .post ∧ hop.request.body = some c.batch.print ∧
    hop.answer.status.isSuccess = true

/-- Batches that are taken one after the other. -/
inductive Takes (u : Uplink) (l : Http.Link σ) : σ → List Receipt → Prop
  | nil (s : σ) : Takes u l s []
  | cons {s t : σ} {b : Batch} {q : Url} {hops : List Hop} {a : Http.Answer} {more : List Receipt}
      (place : Url.ofTarget (u.target b.endpoint postPath) = .ok q)
      (trail : Trail l ⟨.post, q, some b.print⟩ s hops a t) (few : hops.length ≤ Http.maxHops + 1)
      (success : a.status.isSuccess = true) (rest : Takes u l t more) :
      Takes u l s (⟨b, hops⟩ :: more)

section

variable {u v : Uplink} {l : Http.Link σ} {b : Batch} {s : σ} {counted : List Receipt}

theorem Takes.congr (h : Takes u l s counted) (same : u.endpoint = v.endpoint) :
    Takes v l s counted := by
  induction h with
  | nil s => exact .nil s
  | cons place trail few success rest ih =>
    refine .cons ?_ trail few success ih
    rw [← place, target, target, same]

theorem success_of_taken {r : Except Http.Failure Http.Answer} {d : Directive}
    (h : verdict r = .ok d) : ∃ a, r = .ok a ∧ a.status.isSuccess = true := by
  obtain ⟨notices, hj⟩ := judge_of_taken h
  cases r with
  | error e => contradiction
  | ok a =>
    refine ⟨a, rfl, ?_⟩
    cases hs : a.status.isSuccess with
    | true => rfl
    | false => simp [judge, hs] at hj

/-- A post that the service took led to an answer with success. -/
theorem exists_trail_of_taken {d : Directive} (h : (u.post l b s).outcome = .ok d) :
    ∃ q hops a, Url.ofTarget (u.target b.endpoint postPath) = .ok q ∧
      Trail l ⟨.post, q, some b.print⟩ s hops a (u.exchange l b s).beyond ∧
      hops.length ≤ Http.maxHops + 1 ∧ a.status.isSuccess = true := by
  obtain ⟨a, ha, hsuccess⟩ := success_of_taken h
  rw [post_response] at ha
  rw [exchange, Http.Link.post] at ha ⊢
  cases hq : Url.ofTarget (u.target b.endpoint postPath) with
  | error e => simp [hq] at ha
  | ok q =>
    simp only [hq] at ha ⊢
    obtain ⟨hops, htrail, hfew⟩ := Http.exists_trail_of_follow ha
    exact ⟨q, hops, a, rfl, htrail, hfew, hsuccess⟩

/-- What is counted is a first part of the batches, each of them taken. -/
theorem postAll_takes (l : Http.Link σ) (batches : List Batch) (u : Uplink) (s : σ) :
    let t := (postAll l batches u s).uplink.tally
    ∃ counted, counted.map Receipt.batch <+: batches ∧ Takes u l s counted ∧
      t.batches = u.tally.batches + counted.length ∧
      t.items = u.tally.items + (counted.flatMap (·.batch.items)).length := by
  induction batches generalizing u s with
  | nil => exact ⟨[], List.prefix_rfl, .nil s, rfl, rfl⟩
  | cons b rest ih =>
    intro t
    cases h : (u.post l b s).outcome with
    | error e =>
      obtain ⟨-, hu, -⟩ := postAll_cons_refused h rest
      refine ⟨[], List.nil_prefix, .nil s, ?_, ?_⟩
      · simp only [t, hu]
        rfl
      · simp only [t, hu]
        rfl
    | ok d =>
      obtain ⟨-, hu, -⟩ := postAll_cons_taken h rest
      obtain ⟨q, hops, a, hplace, htrail, hfew, hsuccess⟩ := exists_trail_of_taken h
      obtain ⟨more, hprefix, htakes, hbatches, hitems⟩ :=
        ih (u.countBatch b.size d) (u.exchange l b s).beyond
      refine ⟨⟨b, hops⟩ :: more, ?_, ?_, ?_, ?_⟩
      · exact (List.prefix_cons_inj b).2 hprefix
      · exact .cons hplace htrail hfew hsuccess (htakes.congr rfl)
      · have hone : (u.countBatch b.size d).tally.batches = u.tally.batches + 1 := rfl
        simp only [t, hu, hbatches, hone, List.length_cons]
        omega
      · have hsize : (u.countBatch b.size d).tally.items = u.tally.items + b.items.length := rfl
        simp only [t, hu, hitems, hsize, List.flatMap_cons, List.length_append]
        omega

/-- The first request that a batch leads to is its own post. -/
theorem Takes.head {c : Receipt} {more : List Receipt} (h : Takes u l s (c :: more)) :
    ∃ q a rest, Url.ofTarget (u.target c.batch.endpoint postPath) = .ok q ∧
      c.hops = ⟨⟨.post, q, some c.batch.print⟩, a⟩ :: rest ∧
      (l.carry ⟨.post, q, some c.batch.print⟩ s).delivery = .answered a := by
  cases h with
  | cons place trail few success rest =>
    obtain ⟨first, later, hhops, hfirst⟩ := trail.head
    exact ⟨_, first, later, place, hhops, hfirst⟩

/-- The request that took the batch, or one that came in its place. -/
theorem Takes.ends (h : Takes u l s counted) :
    ∀ c ∈ counted, (c.Delivered ↔ ∀ hop ∈ c.hops, ¬ hop.answer.turns) ∧
      ∃ hop, c.hops.getLast? = some hop ∧ hop.answer.status.isSuccess = true ∧
        (¬ c.Delivered → hop.request.method = .get ∧ hop.request.body = none) := by
  induction h with
  | nil s => simp
  | @cons s _ b q hops a _ place trail few success rest ih =>
    refine List.forall_mem_cons.2 ⟨?_, ih⟩
    have hiff := trail.delivered_iff rfl rfl success
    refine ⟨hiff, ?_⟩
    obtain ⟨front, q', rfl, -, hq⟩ := trail.ends
    refine ⟨⟨q', a⟩, List.getLast?_concat, success, ?_⟩
    intro hnot
    rcases hq with ⟨hmethod, hbody, -⟩ | ⟨hmethod, hbody, -⟩
    · exact absurd ⟨⟨q', a⟩, by simp, hmethod, hbody, success⟩ hnot
    · exact ⟨hmethod, hbody⟩

end

/-- A batch that is counted as taken was given to the service, in a post that was answered with
success, exactly if no answer on the way to that one asked for a request without a body. Otherwise
what the service took is a request without a body, and the batch is lost. -/
theorem delivered_unless_turned (u : Uplink) (l : Http.Link σ) (o : Outbox) (s : σ) :
    let t := (u.send l o s).1.uplink.tally
    ∃ counted, counted.map Receipt.batch <+: o.queued.toList ∧ Takes u l s counted ∧
      t.batches = u.tally.batches + counted.length ∧
      t.items = u.tally.items + (counted.flatMap (·.batch.items)).length ∧
      ∀ c ∈ counted, (c.Delivered ↔ ∀ hop ∈ c.hops, ¬ hop.answer.turns) ∧
        ∃ hop, c.hops.getLast? = some hop ∧ hop.answer.status.isSuccess = true ∧
          (¬ c.Delivered → hop.request.method = .get ∧ hop.request.body = none) := by
  obtain ⟨counted, hprefix, htakes, hbatches, hitems⟩ := postAll_takes l o.queued.toList u s
  exact ⟨counted, hprefix, htakes, hbatches, hitems, htakes.ends⟩

/-- The code of an answer, if one comes. -/
def code? : Http.Delivery → Option Nat
  | .answered a => some a.status.code
  | _ => none

/-- A batch whose post is sent on to another place without its body is counted as taken there. -/
theorem delivered_unless_turned_of_found :
    let text (s : String) := Text.Utf8.encode s.toList
    let plan (code : Nat) (headers : List (List UInt8 × List UInt8)) : Http.Plan Unit :=
      .make .answers code headers [] id
    let b : Batch := ⟨.blank, "agent", [.make .blank .event "a"], none⟩
    let o : Outbox := ⟨8, Fifo.empty.push b, true, true⟩
    let site : Http.Site Unit := ⟨[plan 302 [(text "location", text "/elsewhere")],
      plan 200 [(text "x-live-metrics-subscribed", text "true")]], [], ()⟩
    let u := Uplink.make "http://a" "agent" 1000
    let e := (u.send Http.Site.link o site).1
    e.uplink.tally = ⟨0, 1, 1, 0, 0⟩ ∧
    e.beyond.requests.map (fun r => (r.method, r.url.text, r.body.isSome)) =
      [(.post, "http://a/live/v1/post", true), (.get, "http://a/elsewhere", false)] ∧
    ∃ c : Receipt, c.batch = b ∧ Takes u Http.Site.link site [c] ∧ ¬ c.Delivered := by
  intro text plan b o site u e
  have htally : e.uplink.tally = ⟨0, 1, 1, 0, 0⟩ := by decide +kernel
  have hreceived : e.beyond.requests.map (fun r => (r.method, r.url.text, r.body.isSome)) =
      [(.post, "http://a/live/v1/post", true), (.get, "http://a/elsewhere", false)] := by
    decide +kernel
  have hcode : site.plans.head?.bind (fun p => code? p.delivery) = some 302 := by decide +kernel
  have hopen : (Url.ofTarget (u.target none postPath)).toOption.all (!·.isSecure) = true := by
    decide +kernel
  have hqueued : o.queued.toList = [b] := rfl
  have hunused : u.tally.batches = 0 := rfl
  have hthere : b.endpoint = none := rfl
  clear_value u site o b
  obtain ⟨counted, hprefix, htakes, hbatches, -, hends⟩ :=
    delivered_unless_turned u Http.Site.link o site
  have hone : counted.length = 1 := by
    have hcount : 1 = u.tally.batches + counted.length :=
      (congrArg UplinkTally.batches htally).symm.trans hbatches
    omega
  rw [hqueued] at hprefix
  have hcounted : counted.map Receipt.batch = [b] := hprefix.eq_of_length (by simp [hone])
  obtain ⟨c, rfl, rfl⟩ := List.map_eq_singleton_iff.1 hcounted
  refine ⟨htally, hreceived, c, rfl, htakes, ?_⟩
  intro hdelivered
  obtain ⟨q, a, rest, hplace, hhops, hanswer⟩ := htakes.head
  have hplain : q.isSecure = false := by
    rw [hthere] at hplace
    rw [hplace] at hopen
    simpa [Except.toOption] using hopen
  have hturns : a.turns := by
    cases hplans : site.plans with
    | nil => simp [hplans] at hcode
    | cons p later =>
      have hp : p.delivery = .answered a := by
        simpa [Http.Site.link, Http.Site.accept, hplain, hplans] using hanswer
      have hfound : a.status.code = 302 := by simpa [hplans, hp, code?] using hcode
      exact .inr (.inl hfound)
  have hstraight := (hends c (by simp)).1.1 hdelivered
  rw [hhops] at hstraight
  exact hstraight _ (List.mem_cons_self ..) hturns

end LiveTelemetry.Uplink
