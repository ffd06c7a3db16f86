import Mathlib.Data.List.Induction
import LiveTelemetry.Proofs.Uplink.Posts
/-!
An uplink that any number of callers use at once. Main statements: a call to send that nobody comes
between is its steps one after the other, and the link carries what the contacts of the session take
and nothing more.
-/
namespace LiveTelemetry.Uplink

open Telemetry (Batch)

/-- A call to send: the posts it made, the batches it has not come to, and what it returned. -/
structure Shipment where
  posted : List Post
  left : List Batch
  result : Option (Except Error Unit)

namespace Shipment

/-- A call that goes on until nothing is left. -/
def going (posted : List Post) (left : List Batch) : Shipment :=
  ⟨posted, left, if left.isEmpty then some (.ok ()) else none⟩

/-- A call that took batches and posted none yet. -/
def make (batches : List Batch) : Shipment := going [] batches

/-- The batches that a call took out of the outbox. -/
def taken (c : Shipment) : List Batch := c.posted.map Post.batch ++ c.left

/-- How far a call can have come: it goes on after each post that the service takes, until nothing
is left, and returns after one that it does not take. -/
inductive Proper : Shipment → Prop
  | underway {posted : List Post} {left : List Batch} (taken : ∀ p ∈ posted, p.taken = true)
      (more : left ≠ []) : Proper ⟨posted, left, none⟩
  | done {posted : List Post} (taken : ∀ p ∈ posted, p.taken = true) :
      Proper ⟨posted, [], some (.ok ())⟩
  | failed {posted : List Post} {p : Post} {left : List Batch} {e : Error}
      (taken : ∀ q ∈ posted, q.taken = true) (refused : p.outcome = .error e) :
      Proper ⟨posted ++ [p], left, some (.error e)⟩

/-- The call after one more post. -/
def next (c : Shipment) (p : Post) (left : List Batch) : Shipment where
  posted := c.posted ++ [p]
  left := left
  result :=
    match p.outcome with
    | .ok _ => if left.isEmpty then some (.ok ()) else none
    | .error e => some (.error e)

theorem make_proper (batches : List Batch) : (make batches).Proper := by
  cases batches with
  | nil => exact .done (by simp)
  | cons b rest => exact .underway (by simp) (by simp)

theorem next_proper {posted : List Post} {left : List Batch}
    (taken : ∀ p ∈ posted, p.taken = true) (p : Post) (rest : List Batch) :
    (next ⟨posted, left, none⟩ p rest).Proper := by
  cases hp : p.outcome with
  | error e =>
    have hn : next ⟨posted, left, none⟩ p rest = ⟨posted ++ [p], rest, some (.error e)⟩ := by
      simp [next, hp]
    rw [hn]
    exact .failed taken hp
  | ok d =>
    have hall : ∀ q ∈ posted ++ [p], q.taken = true := by
      rw [List.forall_mem_append, List.forall_mem_singleton]
      exact ⟨taken, Post.taken_of_ok hp⟩
    cases rest with
    | nil =>
      have hn : next ⟨posted, left, none⟩ p [] = ⟨posted ++ [p], [], some (.ok ())⟩ := by
        simp [next, hp]
      rw [hn]
      exact .done hall
    | cons b rest =>
      have hn : next ⟨posted, left, none⟩ p (b :: rest) = ⟨posted ++ [p], b :: rest, none⟩ := by
        simp [next, hp]
      rw [hn]
      exact .underway hall (by simp)

theorem Proper.taken_of_open {posted : List Post} {left : List Batch}
    (h : Proper ⟨posted, left, none⟩) : ∀ p ∈ posted, p.taken = true := by
  cases h with
  | underway taken more => exact taken

end Shipment

/-- Steps of those who put batches in the outbox, and of those who ping and send. -/
inductive Move where
  | queue (b : Batch)
  /-- Nobody puts batches in any more. -/
  | finish
  | ping (time : Instant) (there : Option String)
  /-- A call to send that nobody comes between. -/
  | send
  /-- A call to send takes what waits. Others may come before its posts, and between them. -/
  | take
  /-- The call to send at this place posts its next batch. -/
  | post (place : Nat)

/-- An uplink in use over a link. -/
structure Session (σ : Type) where
  uplink : Uplink
  outbox : Outbox
  beyond : σ
  /-- Batches that came to be in the outbox. -/
  queued : List Batch
  /-- Pings and posts, in the order in which they were made. -/
  contacts : List Contact
  /-- Calls to send, in the order in which they took what waited. -/
  calls : List Shipment

namespace Session

section

variable (l : Http.Link σ)

/-- The posts of a call to send that is made now. -/
def sends (s : Session σ) : List Post := posts l s.outbox.queued.toList s.uplink s.beyond

/-- The session after the call at `place`, which is `c`, posts `b` with `rest` still ahead. -/
def advance (s : Session σ) (place : Nat) (c : Shipment) (b : Batch) (rest : List Batch) :
    Session σ :=
  let p := s.uplink.post l b s.beyond
  { s with
    uplink := s.uplink.settlePost p rest.length
    beyond := (s.uplink.exchange l b s.beyond).beyond
    contacts := s.contacts ++ [.post p]
    calls := s.calls.set place (c.next p rest) }

def step (s : Session σ) : Move → Session σ
  | .queue b =>
    match s.outbox.push b with
    | .ok o => { s with outbox := o, queued := s.queued ++ [b] }
    | .error _ => s
  | .finish => { s with outbox := s.outbox.finish }
  | .ping time there =>
    let e := s.uplink.ping l time there s.beyond
    { s with
      uplink := e.uplink
      beyond := e.beyond
      contacts := s.contacts ++ [s.uplink.asking l time there s.beyond] }
  | .send =>
    let (e, o) := s.uplink.send l s.outbox s.beyond
    let ps := s.sends l
    { s with
      uplink := e.uplink
      outbox := o
      beyond := e.beyond
      contacts := s.contacts ++ ps.map .post
      calls := s.calls ++ [⟨ps, s.outbox.queued.toList.drop ps.length, some e.outcome⟩] }
  | .take =>
    { s with
      outbox := s.outbox.takeAll.2
      calls := s.calls ++ [.make s.outbox.takeAll.1] }
  | .post place =>
    match s.calls[place]? with
    | some c =>
      match c.result, c.left with
      | none, b :: rest => s.advance l place c b rest
      | _, _ => s
    | none => s

/-- A session after some moves, in the order in which they were made. -/
def after (s : Session σ) (moves : List Move) : Session σ := moves.foldl (step l) s

/-- An uplink that has sent nothing. -/
def fresh (endpoint name : String) (timeout : Nat) (o : Outbox) (w : σ) : Session σ :=
  ⟨Uplink.make endpoint name timeout, o, w, o.queued.toList, [], []⟩

@[simp] theorem after_snoc (s : Session σ) (moves : List Move) (m : Move) :
    s.after l (moves ++ [m]) = (s.after l moves).step l m := by
  simp [after]

variable {l} {s : Session σ}

/-- What is kept by every move holds after all of them. -/
theorem after_keeps {P : Session σ → Prop} (step : ∀ s m, P s → P (s.step l m)) (h : P s)
    (moves : List Move) : P (s.after l moves) := by
  induction moves using List.reverseRecOn with
  | nil => exact h
  | append_singleton moves m ih =>
    rw [after_snoc]
    exact step _ m ih

/-- A post is made for a call that has a batch left and did not return. -/
theorem post_cases (s : Session σ) (place : Nat) :
    s.step l (.post place) = s ∨
    ∃ posted b rest, s.calls[place]? = some ⟨posted, b :: rest, none⟩ ∧
      s.step l (.post place) = s.advance l place ⟨posted, b :: rest, none⟩ b rest := by
  cases hc : s.calls[place]? with
  | none => exact .inl (by simp [step, hc])
  | some c =>
    obtain ⟨posted, left, result⟩ := c
    cases result with
    | some r => exact .inl (by simp [step, hc])
    | none =>
      cases left with
      | nil => exact .inl (by simp [step, hc])
      | cons b rest => exact .inr ⟨posted, b, rest, rfl, by simp [step, hc]⟩

/-- The last call posts its next batch. -/
theorem step_last {before : List Shipment} {posted : List Post} {b : Batch} {rest : List Batch}
    (h : s.calls = before ++ [⟨posted, b :: rest, none⟩]) :
    let p := s.uplink.post l b s.beyond
    s.step l (.post before.length) =
      { s with
        uplink := s.uplink.settlePost p rest.length
        beyond := (s.uplink.exchange l b s.beyond).beyond
        contacts := s.contacts ++ [.post p]
        calls := before ++ [Shipment.next ⟨posted, b :: rest, none⟩ p rest] } := by
  intro p
  let c : Shipment := ⟨posted, b :: rest, none⟩
  have hget : s.calls[before.length]? = some c := by simp [h, c]
  have hset : s.calls.set before.length (c.next p rest) = before ++ [c.next p rest] := by
    simp [h]
  have hs : s.step l (.post before.length) = s.advance l before.length c b rest := by
    simp [Session.step, hget, c]
  rw [hs, ← hset]
  rfl

/-- A call that nobody comes between does what the uplink does with all its batches at once. -/
theorem after_posts (batches : List Batch) {before : List Shipment} {posted : List Post}
    (h : s.calls = before ++ [.going posted batches]) :
    let e := postAll l batches s.uplink s.beyond
    let ps := posts l batches s.uplink s.beyond
    s.after l (List.replicate ps.length (.post before.length)) =
      { s with
        uplink := e.uplink
        beyond := e.beyond
        contacts := s.contacts ++ ps.map .post
        calls := before ++ [⟨posted ++ ps, batches.drop ps.length, some e.outcome⟩] } := by
  induction batches generalizing s posted with
  | nil =>
    have hcalls : s.calls = before ++ [⟨posted ++ [], [], some (.ok ())⟩] := by
      rw [List.append_nil]
      exact h
    change s = { s with
      contacts := s.contacts ++ []
      calls := before ++ [⟨posted ++ [], [], some (.ok ())⟩] }
    rw [← hcalls, List.append_nil]
  | cons b rest ih =>
    let p := s.uplink.post l b s.beyond
    let c : Shipment := ⟨posted, b :: rest, none⟩
    have hcalls : s.calls = before ++ [c] := h
    have hstep := step_last (l := l) hcalls
    intro e ps
    cases ho : p.outcome with
    | error err =>
      obtain ⟨he, hu, hw⟩ := postAll_cons_refused ho rest
      have hps : ps = [p] := posts_cons_refused ho rest
      have hnext : c.next p rest = ⟨posted ++ [p], rest, some (.error err)⟩ := by
        simp [Shipment.next, ho, c]
      rw [hps]
      change s.step l (.post before.length) = _
      rw [hstep, settlePost_refused ho, hnext, ← hu, ← he, ← hw]
      rfl
    | ok d =>
      obtain ⟨he, hu, hw⟩ := postAll_cons_taken ho rest
      have hps : ps = p :: posts l rest (s.uplink.countBatch b.size d)
          (s.uplink.exchange l b s.beyond).beyond := posts_cons_taken ho rest
      have hnext : c.next p rest = .going (posted ++ [p]) rest := by
        simp [Shipment.next, Shipment.going, ho, c]
      let t : Session σ :=
        { s with
          uplink := s.uplink.countBatch b.size d
          beyond := (s.uplink.exchange l b s.beyond).beyond
          contacts := s.contacts ++ [.post p]
          calls := before ++ [.going (posted ++ [p]) rest] }
      have ht : s.step l (.post before.length) = t := by
        rw [hstep, settlePost_taken ho, hnext]
        rfl
      have hgoing : t.calls = before ++ [.going (posted ++ [p]) rest] := rfl
      rw [hps]
      change (s.step l (.post before.length)).after l _ = _
      rw [ht]
      refine (ih hgoing).trans ?_
      rw [List.append_assoc, List.append_assoc, ← he, ← hu, ← hw]
      rfl

/-- A call to send that nobody comes between takes what waits and posts it at once. -/
theorem step_send (s : Session σ) : s.step l .send =
    s.after l (.take :: List.replicate (s.sends l).length (.post s.calls.length)) :=
  (after_posts (s := s.step l .take) s.outbox.queued.toList rfl).symm

/-- What is kept when a call takes batches and when one is posted is kept by a call to send. -/
theorem send_keeps {P : Session σ → Prop} (take : ∀ s, P s → P (s.step l .take))
    (post : ∀ s place, P s → P (s.step l (.post place))) (h : P s) : P (s.step l .send) := by
  have hposts : ∀ n t, P t → P (t.after l (List.replicate n (.post s.calls.length))) := by
    intro n
    induction n with
    | zero => exact fun t ht => ht
    | succ n ih => exact fun t ht => ih _ (post t _ ht)
  rw [step_send]
  exact hposts _ _ (take s h)

/-- What a call to send does that nobody comes between: it takes all that waits and posts it in its
order, up to the first batch that the service does not take. -/
theorem exists_shipment (s : Session σ) :
    ∃ c : Shipment, (s.step l .send).calls = s.calls ++ [c] ∧ c.posted = s.sends l ∧
      c.taken = s.outbox.queued.toList ∧ c.Proper ∧
      c.result = some (s.uplink.send l s.outbox s.beyond).1.outcome := by
  refine ⟨_, rfl, rfl, ?_, ?_, rfl⟩
  · rcases posts_ends l s.outbox.queued.toList s.uplink s.beyond with
      ⟨-, hbatches, -⟩ | ⟨e, taken, p, rest, -, hps, hbatches, -, -⟩
    · have hlength := congrArg List.length hbatches
      rw [List.length_map] at hlength
      rw [Shipment.taken, sends, hbatches, hlength, List.drop_length, List.append_nil]
    · have hdrop : s.outbox.queued.toList.drop (taken ++ [p]).length = rest := by
        have hsplit : s.outbox.queued.toList = (taken ++ [p]).map Post.batch ++ rest := by
          rw [hbatches]
          simp
        rw [hsplit]
        exact List.drop_left' (List.length_map ..)
      rw [Shipment.taken, sends, hps, hdrop, hbatches]
      simp
  · rcases posts_ends l s.outbox.queued.toList s.uplink s.beyond with
      ⟨hok, hbatches, htaken⟩ | ⟨e, taken, p, rest, herror, hps, -, htaken, hp⟩
    · have hlength := congrArg List.length hbatches
      rw [List.length_map] at hlength
      rw [sends, hok, hlength, List.drop_length]
      exact .done htaken
    · rw [sends, herror, hps]
      exact .failed htaken hp

end

/-- In a session of the uplink `u` the link carried what the contacts took, one after the other. -/
structure Carried (u : Uplink) (s : Session (Http.Traced σ)) : Prop where
  endpoint : s.uplink.endpoint = u.endpoint
  name : s.uplink.instanceName = u.instanceName
  carried : s.beyond.carried = s.contacts.flatMap Contact.carried
  made : ∀ c ∈ s.contacts, c.Made u

section

variable {l : Http.Link σ} {u : Uplink} {s t : Session (Http.Traced σ)}

/-- One more contact is made, and the link carries what it takes. -/
theorem Carried.contact {c : Contact} (h : Carried u s)
    (home : t.uplink.endpoint = s.uplink.endpoint ∧ t.uplink.instanceName = s.uplink.instanceName)
    (contacts : t.contacts = s.contacts ++ [c]) (made : c.Made s.uplink)
    (carried : t.beyond.carried = s.beyond.carried ++ c.carried) : Carried u t := by
  refine ⟨home.1.trans h.endpoint, home.2.trans h.name, ?_, ?_⟩
  · rw [carried, h.carried, contacts, List.flatMap_append, List.flatMap_singleton]
  · rw [contacts, List.forall_mem_append, List.forall_mem_singleton]
    exact ⟨h.made, made.congr h.endpoint h.name⟩

theorem Carried.ping (h : Carried u s) (time : Instant) (there : Option String) :
    Carried u (s.step l.traced (.ping time there)) := by
  obtain ⟨-, hu, -⟩ := ping_eq s.uplink l.traced time there s.beyond
  apply h.contact (c := s.uplink.asking l.traced time there s.beyond) ?_ rfl (asking_made ..)
  · simp only [Session.step, ping_traced, asking_traced]
  · simp only [Session.step, hu]
    exact settlePing_home _ _

theorem Carried.take (h : Carried u s) : Carried u (s.step l.traced .take) :=
  ⟨h.endpoint, h.name, h.carried, h.made⟩

theorem Carried.post (h : Carried u s) (place : Nat) :
    Carried u (s.step l.traced (.post place)) := by
  rcases post_cases (l := l.traced) s place with hs | ⟨posted, b, rest, -, hs⟩
  · rw [hs]
    exact h
  · rw [hs]
    let p := s.uplink.post l.traced b s.beyond
    have hcarried : (s.advance l.traced place ⟨posted, b :: rest, none⟩ b rest).beyond.carried =
        s.beyond.carried ++ p.carried := by
      simp only [advance, p, exchange_traced, post_traced]
    have hmade : Contact.Made s.uplink (.post p) := post_made
    exact h.contact (settlePost_home s.uplink p rest.length) rfl hmade hcarried

theorem Carried.step (h : Carried u s) (m : Move) : Carried u (s.step l.traced m) := by
  cases m with
  | queue b =>
    rw [Session.step]
    cases s.outbox.push b with
    | ok o => exact ⟨h.endpoint, h.name, h.carried, h.made⟩
    | error e => exact h
  | finish => exact ⟨h.endpoint, h.name, h.carried, h.made⟩
  | ping time there => exact h.ping time there
  | send => exact send_keeps (fun _ h => h.take) (fun _ place h => h.post place) h
  | take => exact h.take
  | post place => exact h.post place

end

theorem after_carried (l : Http.Link σ) (endpoint name : String) (timeout : Nat) (o : Outbox)
    (w : σ) (moves : List Move) :
    Carried (Uplink.make endpoint name timeout)
      ((fresh endpoint name timeout o (⟨w, []⟩ : Http.Traced σ)).after l.traced moves) :=
  after_keeps (fun _ m h => h.step m) ⟨rfl, rfl, rfl, by simp [fresh]⟩ moves

end Session

end LiveTelemetry.Uplink
