import LiveTelemetry.Proofs.Http.Traced
import LiveTelemetry.Uplink.Basic
/-!
The contacts that an uplink has with its service: its pings, and the posts that it makes when it
sends. Main statements: a batch that the service takes is counted and followed by the next one, one
that it does not take is given up with all the others, and a link carries for an uplink just what
its contacts take.
-/
namespace LiveTelemetry.Uplink

open Telemetry (Batch)

/-- What the service wants, by its response to a request, or why it did not take the request. -/
def verdict (r : Except Http.Failure Http.Answer) : Except Error Directive :=
  (judge r).map Prod.fst

theorem judge_of_taken {r : Except Http.Failure Http.Answer} {d : Directive}
    (h : verdict r = .ok d) : ∃ notices, judge r = .ok (d, notices) := by
  cases hj : judge r with
  | error e => simp [verdict, hj, Except.map] at h
  | ok x =>
    obtain ⟨d', notices⟩ := x
    obtain rfl : d' = d := by simpa [verdict, hj, Except.map] using h
    exact ⟨notices, rfl⟩

theorem judge_of_refused {r : Except Http.Failure Http.Answer} {e : Error}
    (h : verdict r = .error e) : judge r = .error e := by
  cases hj : judge r with
  | error e' =>
    obtain rfl : e' = e := by simpa [verdict, hj, Except.map] using h
    rfl
  | ok x => simp [verdict, hj, Except.map] at h

/-- A batch that was posted, and how that went. -/
structure Post where
  batch : Batch
  attempt : Http.Attempt

namespace Post

def outcome (p : Post) : Except Error Directive := verdict p.attempt.response

/-- What the link carried for it. -/
def carried (p : Post) : List Http.Carriage := p.attempt.carried

/-- Whether the service took the batch. -/
def taken (p : Post) : Bool := p.outcome.isOk

theorem taken_of_ok {p : Post} {d : Directive} (h : p.outcome = .ok d) : p.taken = true := by
  simp [taken, h, Except.isOk, Except.toBool]

theorem not_taken_of_error {p : Post} {e : Error} (h : p.outcome = .error e) :
    p.taken = false := by
  simp [taken, h, Except.isOk, Except.toBool]

end Post

/-- A request that an uplink makes of its service, and how that went. -/
inductive Contact where
  | ping (endpoint : Option String) (attempt : Http.Attempt)
  | post (p : Post)

namespace Contact

/-- The endpoint that a request was meant for, if not the configured one. -/
def endpoint : Contact → Option String
  | ping e _ => e
  | post p => p.batch.endpoint

def path : Contact → String
  | ping _ _ => pingPath
  | post _ => postPath

def attempt : Contact → Http.Attempt
  | ping _ x => x
  | post p => p.attempt

def target (c : Contact) : String := c.attempt.target

/-- What the link carried for it. -/
def carried (c : Contact) : List Http.Carriage := c.attempt.carried

def outcome (c : Contact) : Except Error Directive := verdict c.attempt.response

/-- The directive in the response. -/
def directive? (c : Contact) : Option Directive := c.outcome.toOption

/-- What came of a ping. -/
def ping? : Contact → Option (Except Error Directive)
  | ping _ x => some (verdict x.response)
  | post _ => none

/-- The post that a contact was, if it was one. -/
def post? : Contact → Option Post
  | ping _ _ => none
  | post p => some p

@[simp] theorem filterMap_post?_map (ps : List Post) :
    (ps.map Contact.post).filterMap post? = ps := by
  simp [List.filterMap_map, Function.comp_def, post?]

/-- A contact is a ping or a post. -/
theorem length_eq (log : List Contact) :
    log.length = (log.filterMap ping?).length + (log.filterMap post?).length := by
  induction log with
  | nil => rfl
  | cons c log ih =>
    cases c with
    | ping e x =>
      simp only [List.filterMap_cons, ping?, post?, List.length_cons, ih]
      omega
    | post p =>
      simp only [List.filterMap_cons, ping?, post?, List.length_cons, ih]
      omega

/-- The contacts that an uplink can have: it asks at the resource for pings and tells its name and a
time there, and posts batches as they print at the one for posts. -/
inductive Made (u : Uplink) : Contact → Prop
  | ping {e : Option String} {x : Http.Attempt} (time : Instant)
      (place : x.target = u.target e pingPath) (body : x.body = u.pingBody time)
      (proper : x.Proper) : Made u (.ping e x)
  | post {p : Post} (place : p.attempt.target = u.target p.batch.endpoint postPath)
      (body : p.attempt.body = p.batch.print) (proper : p.attempt.Proper) : Made u (.post p)

theorem Made.target_eq {u : Uplink} {c : Contact} (h : Made u c) :
    c.target = u.target c.endpoint c.path := by
  cases h with
  | ping _ place _ _ => exact place
  | post place _ _ => exact place

/-- Contacts depend on where an uplink is at home, and what it is called. -/
theorem Made.congr {u v : Uplink} {c : Contact} (h : Made u c) (endpoint : u.endpoint = v.endpoint)
    (name : u.instanceName = v.instanceName) : Made v c := by
  have htarget : u.target = v.target := by
    funext there path
    simp only [Uplink.target, endpoint]
  cases h with
  | ping time place body proper =>
    refine .ping time (htarget ▸ place) ?_ proper
    rw [body, pingBody, pingBody, name]
  | post place body proper => exact .post (htarget ▸ place) body proper

end Contact

/-- The exchange in which a batch is posted. -/
-- Sealed, as what is proved of posts does not depend on how the link carries them.
@[irreducible] def exchange (u : Uplink) (l : Http.Link σ) (b : Batch) (s : σ) :
    Http.Exchange σ :=
  l.post u.timeout (u.target b.endpoint postPath) b.print s

/-- The post of a batch. -/
def post (u : Uplink) (l : Http.Link σ) (b : Batch) (s : σ) : Post :=
  ⟨b, l.attempt u.timeout (u.target b.endpoint postPath) b.print s⟩

/-- What an uplink counts once a batch was posted that others wait behind. -/
def settlePost (u : Uplink) (p : Post) (behind : Nat) : Uplink :=
  match p.outcome with
  | .ok d => u.countBatch p.batch.size d
  | .error _ => u.countFailure (behind + 1)

theorem settlePost_home (u : Uplink) (p : Post) (behind : Nat) :
    (u.settlePost p behind).endpoint = u.endpoint ∧
    (u.settlePost p behind).instanceName = u.instanceName := by
  unfold settlePost
  split <;> exact ⟨rfl, rfl⟩

/-- The posts that are made of batches, one after the other up to the first that fails. -/
def posts (l : Http.Link σ) : List Batch → Uplink → σ → List Post
  | [], _, _ => []
  | b :: rest, u, s =>
    u.post l b s ::
      match (u.post l b s).outcome with
      | .ok d => posts l rest (u.countBatch b.size d) (u.exchange l b s).beyond
      | .error _ => []

section

variable {u : Uplink} {l : Http.Link σ} {b : Batch} {s : σ}

theorem post_response : (u.post l b s).attempt.response = (u.exchange l b s).outcome := by
  rw [exchange]
  exact Http.Link.attempt_response s

theorem post_made : Contact.Made u (.post (u.post l b s)) :=
  .post (Http.Link.attempt_made s).1 (Http.Link.attempt_made s).2 (Http.Link.attempt_proper s)

theorem settlePost_taken {p : Post} {d : Directive} (h : p.outcome = .ok d) (behind : Nat) :
    u.settlePost p behind = u.countBatch p.batch.size d := by
  simp only [settlePost, h]

theorem settlePost_refused {p : Post} {e : Error} (h : p.outcome = .error e) (behind : Nat) :
    u.settlePost p behind = u.countFailure (behind + 1) := by
  simp only [settlePost, h]

theorem posts_cons_taken {d : Directive} (h : (u.post l b s).outcome = .ok d) (rest : List Batch) :
    posts l (b :: rest) u s =
      u.post l b s :: posts l rest (u.countBatch b.size d) (u.exchange l b s).beyond := by
  simp only [posts, h]

theorem posts_cons_refused {e : Error} (h : (u.post l b s).outcome = .error e)
    (rest : List Batch) : posts l (b :: rest) u s = [u.post l b s] := by
  simp only [posts, h]

theorem postAll_cons (rest : List Batch) :
    postAll l (b :: rest) u s =
      match judge (u.post l b s).attempt.response with
      | .ok (d, notices) =>
        let more := postAll l rest (u.countBatch b.size d) (u.exchange l b s).beyond
        { more with
          latency := (u.exchange l b s).latency + more.latency
          notices := .posting (u.target b.endpoint postPath) b.size :: notices ++ more.notices }
      | .error e =>
        ⟨.error e, (u.exchange l b s).latency,
          [.posting (u.target b.endpoint postPath) b.size, .postFailed e.message (rest.length + 1)],
          u.countFailure (rest.length + 1), (u.exchange l b s).beyond⟩ := by
  have hx : l.post u.timeout (u.target b.endpoint postPath) b.print s = u.exchange l b s := by
    rw [exchange]
  rw [post_response]
  cases hj : judge (u.exchange l b s).outcome with
  | error e => simp only [postAll, hx, hj]
  | ok x => simp only [postAll, hx, hj]

/-- Once the service took a batch, it is counted and the next one is posted. -/
theorem postAll_cons_taken {d : Directive} (h : (u.post l b s).outcome = .ok d)
    (rest : List Batch) :
    let more := postAll l rest (u.countBatch b.size d) (u.exchange l b s).beyond
    (postAll l (b :: rest) u s).outcome = more.outcome ∧
    (postAll l (b :: rest) u s).uplink = more.uplink ∧
    (postAll l (b :: rest) u s).beyond = more.beyond := by
  obtain ⟨notices, hj⟩ := judge_of_taken (r := (u.post l b s).attempt.response) h
  rw [postAll_cons, hj]
  exact ⟨rfl, rfl, rfl⟩

/-- A batch that the service did not take is given up with all that follow it. -/
theorem postAll_cons_refused {e : Error} (h : (u.post l b s).outcome = .error e)
    (rest : List Batch) :
    (postAll l (b :: rest) u s).outcome = .error e ∧
    (postAll l (b :: rest) u s).uplink = u.countFailure (rest.length + 1) ∧
    (postAll l (b :: rest) u s).beyond = (u.exchange l b s).beyond := by
  rw [postAll_cons, judge_of_refused (r := (u.post l b s).attempt.response) h]
  exact ⟨rfl, rfl, rfl⟩

end

/-- The exchange in which the service is asked what it wants. -/
@[irreducible] def inquiry (u : Uplink) (l : Http.Link σ) (time : Instant)
    (endpoint : Option String) (s : σ) : Http.Exchange σ :=
  l.post u.timeout (u.target endpoint pingPath) (u.pingBody time) s

/-- The contact of a ping. -/
def asking (u : Uplink) (l : Http.Link σ) (time : Instant) (endpoint : Option String) (s : σ) :
    Contact :=
  .ping endpoint (l.attempt u.timeout (u.target endpoint pingPath) (u.pingBody time) s)

/-- What an uplink counts once a ping got a response. -/
def settlePing (u : Uplink) (r : Except Http.Failure Http.Answer) : Uplink :=
  match verdict r with
  | .ok _ => u.countPing
  | .error _ => u.countFailure 0

theorem settlePing_home (u : Uplink) (r : Except Http.Failure Http.Answer) :
    (u.settlePing r).endpoint = u.endpoint ∧ (u.settlePing r).instanceName = u.instanceName := by
  unfold settlePing
  split <;> exact ⟨rfl, rfl⟩

theorem asking_made (u : Uplink) (l : Http.Link σ) (time : Instant) (endpoint : Option String)
    (s : σ) : (u.asking l time endpoint s).Made u :=
  .ping time (Http.Link.attempt_made s).1 (Http.Link.attempt_made s).2
    (Http.Link.attempt_proper s)

theorem asking_response (u : Uplink) (l : Http.Link σ) (time : Instant)
    (endpoint : Option String) (s : σ) : (u.asking l time endpoint s).attempt.response =
      (u.inquiry l time endpoint s).outcome := by
  rw [inquiry]
  exact Http.Link.attempt_response s

theorem ping_eq (u : Uplink) (l : Http.Link σ) (time : Instant) (endpoint : Option String)
    (s : σ) :
    let x := u.inquiry l time endpoint s
    (u.ping l time endpoint s).outcome = verdict x.outcome ∧
    (u.ping l time endpoint s).uplink = u.settlePing x.outcome ∧
    (u.ping l time endpoint s).beyond = x.beyond := by
  intro x
  have hx : l.post u.timeout (u.target endpoint pingPath) (u.pingBody time) s = x := by
    simp only [x, inquiry]
  rw [ping, hx]
  cases hv : verdict x.outcome with
  | ok d =>
    obtain ⟨notices, hj⟩ := judge_of_taken hv
    simp only [hj, settlePing, hv, and_self]
  | error e => simp only [judge_of_refused hv, settlePing, hv, and_self]

/-! What is carried -/

section

variable (u : Uplink) (l : Http.Link σ) (s : Http.Traced σ)

theorem exchange_traced (b : Batch) :
    let x := u.exchange l b s.beyond
    u.exchange l.traced b s = ⟨x.outcome, x.latency,
      ⟨x.beyond, s.carried ++ (u.post l b s.beyond).carried⟩⟩ := by
  simp only [exchange]
  exact Http.Link.post_traced s

theorem post_traced (b : Batch) : u.post l.traced b s = u.post l b s.beyond := by
  rw [post, post, Http.Link.attempt_traced]

theorem asking_traced (time : Instant) (endpoint : Option String) :
    u.asking l.traced time endpoint s = u.asking l time endpoint s.beyond := by
  rw [asking, asking, Http.Link.attempt_traced]

theorem posts_traced (batches : List Batch) :
    posts l.traced batches u s = posts l batches u s.beyond := by
  induction batches generalizing u s with
  | nil => rfl
  | cons b rest ih =>
    rw [posts, posts, post_traced, exchange_traced]
    cases (u.post l b s.beyond).outcome with
    | error e => rfl
    | ok d => exact congrArg (_ :: ·) (ih _ _)

theorem inquiry_traced (time : Instant) (endpoint : Option String) :
    let x := u.inquiry l time endpoint s.beyond
    u.inquiry l.traced time endpoint s = ⟨x.outcome, x.latency,
      ⟨x.beyond, s.carried ++ (u.asking l time endpoint s.beyond).carried⟩⟩ := by
  simp only [inquiry]
  exact Http.Link.post_traced s

/-- For a ping a link carries what the one contact takes. -/
theorem ping_traced (time : Instant) (endpoint : Option String) :
    let e := u.ping l time endpoint s.beyond
    u.ping l.traced time endpoint s = ⟨e.outcome, e.latency, e.notices, e.uplink,
      ⟨e.beyond, s.carried ++ (u.asking l time endpoint s.beyond).carried⟩⟩ := by
  have hping {τ : Type} (m : Http.Link τ) (t : τ) :
      m.post u.timeout (u.target endpoint pingPath) (u.pingBody time) t =
        u.inquiry m time endpoint t := by
    rw [inquiry]
  simp only [ping, hping, inquiry_traced]
  cases judge (u.inquiry l time endpoint s.beyond).outcome with
  | error e => rfl
  | ok x => rfl

/-- For the batches that are sent a link carries what their posts take, one after the other, and
nothing more. -/
theorem postAll_traced (batches : List Batch) :
    let e := postAll l batches u s.beyond
    postAll l.traced batches u s = ⟨e.outcome, e.latency, e.notices, e.uplink,
      ⟨e.beyond, s.carried ++ (posts l batches u s.beyond).flatMap Post.carried⟩⟩ := by
  induction batches generalizing u s with
  | nil => simp [postAll, posts]
  | cons b rest ih =>
    have hresponse : (u.post l.traced b s).attempt.response =
        (u.post l b s.beyond).attempt.response := by rw [post_traced]
    dsimp only
    rw [postAll_cons, postAll_cons, hresponse, exchange_traced]
    cases ho : (u.post l b s.beyond).outcome with
    | error e =>
      rw [judge_of_refused ho, posts_cons_refused ho, List.flatMap_singleton]
    | ok d =>
      obtain ⟨notices, hj⟩ := judge_of_taken ho
      rw [hj, posts_cons_taken ho, List.flatMap_cons, ← List.append_assoc]
      dsimp only
      rw [ih]

end

/-- Where the posts of some batches end: with the last batch, or with one that is not taken. -/
theorem posts_ends (l : Http.Link σ) (batches : List Batch) (u : Uplink) (s : σ) :
    let ps := posts l batches u s
    ((postAll l batches u s).outcome = .ok () ∧ ps.map Post.batch = batches ∧
      ∀ p ∈ ps, p.taken = true) ∨
    ∃ e taken p rest, (postAll l batches u s).outcome = .error e ∧ ps = taken ++ [p] ∧
      batches = taken.map Post.batch ++ p.batch :: rest ∧
      (∀ q ∈ taken, q.taken = true) ∧ p.outcome = .error e := by
  induction batches generalizing u s with
  | nil => exact .inl ⟨rfl, rfl, by simp [posts]⟩
  | cons b rest ih =>
    cases h : (u.post l b s).outcome with
    | error e =>
      obtain ⟨ho, -, -⟩ := postAll_cons_refused h rest
      exact .inr ⟨e, [], u.post l b s, rest, ho, posts_cons_refused h rest, rfl, by simp, h⟩
    | ok d =>
      obtain ⟨ho, -, -⟩ := postAll_cons_taken h rest
      have hb := Post.taken_of_ok h
      rw [posts_cons_taken h, ho]
      rcases ih (u.countBatch b.size d) (u.exchange l b s).beyond with
        ⟨hall, hbatches, htaken⟩ | ⟨e, taken, p, lost, herror, hps, hbatches, htaken, hp⟩
      · refine .inl ⟨hall, ?_, List.forall_mem_cons.2 ⟨hb, htaken⟩⟩
        rw [List.map_cons, hbatches]
        rfl
      · refine .inr ⟨e, u.post l b s :: taken, p, lost, herror, ?_, ?_,
          List.forall_mem_cons.2 ⟨hb, htaken⟩, hp⟩
        · rw [hps, List.cons_append]
        · rw [hbatches]
          rfl

end LiveTelemetry.Uplink
