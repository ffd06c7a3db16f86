import LiveTelemetry.Proofs.Loop.Tally
import LiveTelemetry.Proofs.Loop.View
/-!
What redirects cannot change. Main statement: two runs whose partners' replies differ in redirects,
and in hints other than those of idle pings, make calls of the same kinds at the same times, end at
the same time, and count the same but for redirects.
-/
namespace LiveTelemetry

/-- What the loop takes its time by when it gets a directive in answer to a ping: whether to send,
and if not, the hint. -/
def Directive.pace (d : Directive) : Status × Option Nat :=
  (d.status, if d.isActive then none else d.hint)

theorem Directive.isActive_congr {d e : Directive} (h : d.status = e.status) :
    d.isActive = e.isActive := by
  rw [isActive, isActive, h]

theorem Directive.of_pace_eq {d e : Directive} (h : d.pace = e.pace) :
    d.isActive = e.isActive ∧ (e.isActive = false → d.hint = e.hint) := by
  obtain ⟨hs, hh⟩ := Prod.mk.inj h
  have ha := isActive_congr hs
  refine ⟨ha, ?_⟩
  intro idle
  simpa [ha, idle] using hh

namespace Loop

/-- The call, whatever endpoint it is for. -/
def Call.blind : Call → Call
  | .ping _ => .ping none
  | .prepare _ => .prepare none
  | .send => .send
  | .directive => .directive

/-- What the loop takes its time by when it gets a reply: how long it takes, whether it has the loop
stopped, whether it is a failure, and what `f` shows of the answer. -/
def Reply.heeded (f : α → β) (r : Reply α) : Nat × Bool × Option β :=
  (r.latency, r.stops, r.outcome.toOption.map f)

theorem Reply.of_heeded_eq {f : α → β} {r r' : Reply α} (h : r.heeded f = r'.heeded f) :
    r.latency = r'.latency ∧ r.stops = r'.stops ∧
    ((∃ e e', r.outcome = .error e ∧ r'.outcome = .error e') ∨
      ∃ a a', r.outcome = .ok a ∧ r'.outcome = .ok a' ∧ f a = f a') := by
  obtain ⟨hl, hs, ho⟩ : r.latency = r'.latency ∧ r.stops = r'.stops ∧
      r.outcome.toOption.map f = r'.outcome.toOption.map f := by
    simpa [heeded] using h
  refine ⟨hl, hs, ?_⟩
  cases hr : r.outcome with
  | error e =>
    cases hr' : r'.outcome with
    | error e' => exact .inl ⟨e, e', rfl, rfl⟩
    | ok a' => simp [hr, hr', Except.toOption] at ho
  | ok a =>
    cases hr' : r'.outcome with
    | error e' => simp [hr, hr', Except.toOption] at ho
    | ok a' => exact .inr ⟨a, a', rfl, rfl, by simpa [hr, hr', Except.toOption] using ho⟩

/-- What of a loop does not depend on redirects. -/
structure Outline where
  mode : Mode
  clock : Nat
  told : Bool
  stopAt : Option Nat
  calls : List (Nat × Call)
  firstStop : Option Nat
  pings : Nat
  posts : Nat
  failures : Nat
  activations : Nat
  deactivations : Nat
  deriving DecidableEq

/-- The stop from outside, if it comes by `t`. -/
def Outline.stopBy (o : Outline) (t : Nat) : Option Nat := o.stopAt.filter (· ≤ t)

/-- Partners that reply alike, as far as the loop takes its time by it, in worlds that `R` relates.
The endpoints that they are given may differ. -/
structure Partners.Concur (p : Partners σ) (q : Partners τ) (R : σ → τ → Prop) : Prop where
  ping : ∀ {w v} now e e', R w v →
    (p.ping now e w).1.heeded Directive.pace = (q.ping now e' v).1.heeded Directive.pace ∧
    R (p.ping now e w).2 (q.ping now e' v).2
  prepare : ∀ {w v} now e e', R w v →
    (p.prepare now e w).1.heeded id = (q.prepare now e' v).1.heeded id ∧
    R (p.prepare now e w).2 (q.prepare now e' v).2
  send : ∀ {w v} now, R w v →
    (p.send now w).1.heeded id = (q.send now v).1.heeded id ∧
    R (p.send now w).2 (q.send now v).2
  directive : ∀ {w v}, R w v → (p.directive w).status = (q.directive v).status

namespace State

def outline (s : State σ) : Outline where
  mode := s.mode
  clock := s.clock
  told := s.told
  stopAt := s.stopAt
  calls := s.calls.map fun c => (c.1, c.2.blind)
  firstStop := s.firstStop
  pings := s.tally.pings
  posts := s.tally.posts
  failures := s.tally.failures
  activations := s.tally.activations
  deactivations := s.tally.deactivations

@[simp] theorem outline_note (s : State σ) (n : Notice) : (s.note n).outline = s.outline := by
  simp [outline]

@[simp] theorem outline_endpoint (s : State σ) : s.endpoint.2.outline = s.outline := by
  simp [outline]

@[simp] theorem outline_receive (s : State σ) (d : Directive) :
    (s.receive d).outline = s.outline := by
  simp [outline, receive_tally]

/-! What the operations of a loop do to its outline -/

theorem outline_ask (s : State σ) (c : Call) (r : Reply α) (w : σ) :
    (s.ask c r w).outline = { s.outline with
      clock := s.outline.clock + r.latency
      told := s.outline.told || r.stops ||
        (s.outline.stopBy (s.outline.clock + r.latency)).isSome
      stopAt :=
        (s.outline.stopBy (s.outline.clock + r.latency)).elim s.outline.stopAt fun _ => none
      calls := s.outline.calls ++ [(s.outline.clock, c.blind)]
      firstStop := s.outline.firstStop.or (if r.stops then some s.outline.clock
        else s.outline.stopBy (s.outline.clock + r.latency)) } := by
  have hstop : s.outline.stopBy = s.stopBy := rfl
  rw [hstop]
  cases hs : s.stopBy (s.clock + r.latency) <;> simp [outline, hs]

theorem outline_sleep (s : State σ) (wait : Nat) :
    (s.sleep wait).outline =
      if s.outline.told then s.outline
      else { s.outline with
        clock := (s.outline.stopBy (s.outline.clock + min wait longestWait)).getD
          (s.outline.clock + min wait longestWait)
        told := (s.outline.stopBy (s.outline.clock + min wait longestWait)).isSome
        stopAt := (s.outline.stopBy (s.outline.clock + min wait longestWait)).elim
          s.outline.stopAt fun _ => none
        firstStop := s.outline.firstStop.or
          (s.outline.stopBy (s.outline.clock + min wait longestWait)) } := by
  have hstop : s.outline.stopBy = s.stopBy := rfl
  have htold : s.outline.told = s.told := rfl
  rw [hstop, htold]
  cases h : s.told with
  | true => simp [sleep_of_told h]
  | false =>
    cases hs : s.stopBy (s.clock + min wait longestWait) <;>
      simp [sleep_of_not_told h, outline, h, hs]

theorem outline_countFailure (s : State σ) :
    s.countFailure.outline = { s.outline with failures := s.outline.failures + 1 } :=
  rfl

theorem outline_countPing (s : State σ) :
    s.countPing.outline = { s.outline with pings := s.outline.pings + 1 } :=
  rfl

theorem outline_activate (s : State σ) :
    s.activate.outline = { s.outline with
      mode := .sending, activations := s.outline.activations + 1 } :=
  rfl

theorem outline_deactivate (s : State σ) :
    s.deactivate.outline = { s.outline with
      mode := .pinging, deactivations := s.outline.deactivations + 1 } :=
  rfl

theorem outline_observed (p : Partners σ) (s : State σ) :
    (s.observed p).outline = { s.outline with
      posts := s.outline.posts + 1
      calls := s.outline.calls ++ [(s.outline.clock, .directive)] } := by
  simp [outline, observed_tally, Call.blind]

theorem outline_finish (s : State σ) : s.finish.outline = { s.outline with mode := .stopped } := by
  simp [outline]

/-- Two loops that differ in redirects at most, with partners in worlds that `R` relates. -/
structure Abreast (R : σ → τ → Prop) (s : State σ) (t : State τ) : Prop where
  outline : s.outline = t.outline
  partners : R s.partners t.partners

variable {R : σ → τ → Prop} {s : State σ} {t : State τ}

theorem Abreast.clock_eq (h : Abreast R s t) : s.clock = t.clock :=
  congrArg Outline.clock h.outline

theorem Abreast.going (h : Abreast R s t) : s.mode = t.mode ∧ s.told = t.told :=
  ⟨congrArg Outline.mode h.outline, congrArg Outline.told h.outline⟩

theorem Abreast.ask (h : Abreast R s t) {c c' : Call} (hc : c.blind = c'.blind) {r r' : Reply α}
    (hl : r.latency = r'.latency) (hs : r.stops = r'.stops) {w : σ} {v : τ} (hw : R w v) :
    Abreast R (s.ask c r w) (t.ask c' r' v) := by
  refine ⟨?_, by simpa using hw⟩
  rw [outline_ask, outline_ask, h.outline, hc, hl, hs]

theorem Abreast.sleep (h : Abreast R s t) (wait : Nat) :
    Abreast R (s.sleep wait) (t.sleep wait) := by
  refine ⟨?_, by simpa using h.partners⟩
  rw [outline_sleep, outline_sleep, h.outline]

theorem Abreast.askThere (h : Abreast R s t) {c : Option String → Call}
    (hc : ∀ e e', (c e).blind = (c e').blind) {r r' : Reply α} (hl : r.latency = r'.latency)
    (hs : r.stops = r'.stops) {w : σ} {v : τ} (hw : R w v) :
    Abreast R (s.askThere c r w) (t.askThere c r' v) := by
  have he : Abreast R s.endpoint.2 t.endpoint.2 :=
    ⟨by simpa using h.outline, by simpa using h.partners⟩
  exact he.ask (hc _ _) hl hs hw

variable {p : Partners σ} {q : Partners τ}

theorem Abreast.pinged (h : Abreast R s t) (hp : p.Concur q R) :
    (s.pingReply p).heeded Directive.pace = (t.pingReply q).heeded Directive.pace ∧
    Abreast R (s.pinged p) (t.pinged q) := by
  have hclock := h.clock_eq
  obtain ⟨hr, hw⟩ := hp.ping s.clock s.endpoint.1 t.endpoint.1 h.partners
  rw [hclock] at hr hw
  have hreply : (s.pingReply p).heeded Directive.pace = (t.pingReply q).heeded Directive.pace := by
    rw [pingReply, pingReply, hclock]
    exact hr
  obtain ⟨hl, hs, -⟩ := Reply.of_heeded_eq hreply
  refine ⟨hreply, ?_⟩
  rw [State.pinged, State.pinged, hclock]
  exact h.askThere (fun _ _ => rfl) hl hs hw

theorem Abreast.prepared (h : Abreast R s t) (hp : p.Concur q R) :
    (s.prepareReply p).heeded id = (t.prepareReply q).heeded id ∧
    Abreast R (s.prepared p) (t.prepared q) := by
  have hclock := h.clock_eq
  obtain ⟨hr, hw⟩ := hp.prepare s.clock s.endpoint.1 t.endpoint.1 h.partners
  rw [hclock] at hr hw
  have hreply : (s.prepareReply p).heeded id = (t.prepareReply q).heeded id := by
    rw [prepareReply, prepareReply, hclock]
    exact hr
  obtain ⟨hl, hs, -⟩ := Reply.of_heeded_eq hreply
  refine ⟨hreply, ?_⟩
  rw [State.prepared, State.prepared, hclock]
  exact h.askThere (fun _ _ => rfl) hl hs hw

theorem Abreast.sent (h : Abreast R s t) (hp : p.Concur q R) :
    (s.sendReply p).heeded id = (t.sendReply q).heeded id ∧
    Abreast R (s.sent p) (t.sent q) := by
  have hclock := h.clock_eq
  obtain ⟨hr, hw⟩ := hp.send s.clock h.partners
  rw [hclock] at hr hw
  have hreply : (s.sendReply p).heeded id = (t.sendReply q).heeded id := by
    rw [sendReply, sendReply, hclock]
    exact hr
  obtain ⟨hl, hs, -⟩ := Reply.of_heeded_eq hreply
  refine ⟨hreply, ?_⟩
  rw [State.sent, State.sent, hclock]
  exact h.ask rfl hl hs hw

/-- Two loops after a cycle, which ask for the same wait. -/
def CycleAbreast (R : σ → τ → Prop) (x : State σ × Option Nat) (y : State τ × Option Nat) : Prop :=
  Abreast R x.1 y.1 ∧ x.2 = y.2

theorem Abreast.countFailure (h : Abreast R s t) (n n' : Notice) :
    Abreast R (s.countFailure.note n) (t.countFailure.note n') := by
  refine ⟨?_, by simpa using h.partners⟩
  rw [outline_note, outline_note, outline_countFailure, outline_countFailure, h.outline]

theorem Abreast.countPing (h : Abreast R s t) (d d' : Directive) :
    Abreast R (s.countPing.receive d) (t.countPing.receive d') := by
  refine ⟨?_, by simpa using h.partners⟩
  rw [outline_receive, outline_receive, outline_countPing, outline_countPing, h.outline]

theorem Abreast.pingCycle (h : Abreast R s t) (hp : p.Concur q R) (i : Intervals) :
    CycleAbreast R (s.pingCycle p i) (t.pingCycle q i) := by
  obtain ⟨hreply, hpinged⟩ := h.pinged hp
  rw [pingCycle_eq, pingCycle_eq]
  obtain ⟨-, -, ⟨e, e', hr, hr'⟩ | ⟨d, d', hr, hr', hd⟩⟩ := Reply.of_heeded_eq hreply
  · rw [hr, hr']
    exact ⟨hpinged.countFailure _ _, rfl⟩
  · obtain ⟨hactive, hhint⟩ := Directive.of_pace_eq hd
    have hcounted := hpinged.countPing d d'
    rw [hr, hr']
    cases ha : d'.isActive with
    | true =>
      simp only [hactive, ha, ↓reduceIte]
      refine ⟨⟨?_, by simpa using hcounted.partners⟩, rfl⟩
      rw [outline_activate, outline_activate, outline_note, outline_note, outline_endpoint,
        outline_endpoint, hcounted.outline]
    | false =>
      simp only [hactive, ha, hhint ha, Bool.false_eq_true, ↓reduceIte]
      refine ⟨⟨?_, by simpa using hcounted.partners⟩, rfl⟩
      rw [outline_note, outline_note, hcounted.outline]

theorem Abreast.observe (h : Abreast R s t) (hp : p.Concur q R) (i : Intervals) :
    CycleAbreast R (s.observe p i) (t.observe q i) := by
  have hactive := Directive.isActive_congr (hp.directive h.partners)
  have hobserved : Abreast R (s.observed p) (t.observed q) := by
    refine ⟨?_, by simpa using h.partners⟩
    rw [outline_observed, outline_observed, h.outline]
  rw [observe_eq, observe_eq, hactive]
  cases ha : (q.directive t.partners).isActive with
  | true => exact ⟨hobserved, rfl⟩
  | false =>
    refine ⟨⟨?_, by simpa using h.partners⟩, rfl⟩
    simp only [Bool.false_eq_true, ↓reduceIte]
    rw [outline_deactivate, outline_deactivate, outline_note, outline_note, hobserved.outline]

theorem Abreast.postCycle (h : Abreast R s t) (hp : p.Concur q R) (i : Intervals) :
    CycleAbreast R (s.postCycle p i) (t.postCycle q i) := by
  obtain ⟨hreply, hprepared⟩ := h.prepared hp
  obtain ⟨hreply', hsent⟩ := hprepared.sent hp
  rw [postCycle_eq, postCycle_eq]
  obtain ⟨-, -, ⟨e, e', hr, hr'⟩ | ⟨u, u', hr, hr', -⟩⟩ := Reply.of_heeded_eq hreply
  · rw [hr, hr']
    exact ⟨hprepared.countFailure _ _, rfl⟩
  · rw [hr, hr']
    obtain ⟨-, -, ⟨e, e', hq, hq'⟩ | ⟨v, v', hq, hq', -⟩⟩ := Reply.of_heeded_eq hreply'
    · simp only [hq, hq']
      exact ⟨hsent.countFailure _ _, rfl⟩
    · simp only [hq, hq']
      exact hsent.observe hp i

/-- A turn keeps two loops abreast. -/
theorem Abreast.turn (h : Abreast R s t) (hp : p.Concur q R) (i : Intervals) :
    Abreast R (s.turn p i) (t.turn q i) := by
  obtain ⟨hmode, -⟩ := h.going
  have hcycle : CycleAbreast R (s.cycle p i) (t.cycle q i) := by
    unfold cycle
    rw [hmode]
    cases t.mode with
    | pinging => exact h.pingCycle hp i
    | sending => exact h.postCycle hp i
    | stopped => exact ⟨h, rfl⟩
  obtain ⟨hafter, hwait⟩ := hcycle
  rw [turn_eq, turn_eq, hwait]
  cases (t.cycle q i).2 with
  | none => exact hafter
  | some wait => exact hafter.sleep wait

theorem Abreast.start (h : Abreast R s t) (i : Intervals) :
    Abreast R (s.start i) (t.start i) := by
  refine ⟨?_, by simpa using h.partners⟩
  rw [State.start, State.start, outline_note, outline_note, h.outline]

theorem Abreast.finish (h : Abreast R s t) : Abreast R s.finish t.finish := by
  refine ⟨?_, by simpa using h.partners⟩
  rw [outline_finish, outline_finish, h.outline]

/-- Two loops that are abreast take as many turns, and are abreast at the end. -/
theorem Abreast.goRound (h : Abreast R s t) (hp : p.Concur q R) (i : Intervals) (turns : Nat) :
    (s.goRound p i turns).map State.outline = (t.goRound q i turns).map State.outline := by
  induction turns generalizing s t with
  | zero =>
    obtain ⟨-, htold⟩ := h.going
    rw [State.goRound, State.goRound, htold]
    split
    · exact congrArg some h.finish.outline
    · rfl
  | succ turns ih =>
    obtain ⟨-, htold⟩ := h.going
    rw [State.goRound, State.goRound, htold]
    split
    · exact congrArg some h.finish.outline
    · exact ih (h.turn hp i)

end State

theorem Partners.Concur.symm {p : Partners σ} {q : Partners τ} {R : σ → τ → Prop}
    (h : p.Concur q R) : q.Concur p (flip R) where
  ping now e e' hw := (h.ping now e' e hw).imp Eq.symm id
  prepare now e e' hw := (h.prepare now e' e hw).imp Eq.symm id
  send now hw := (h.send now hw).imp Eq.symm id
  directive hw := (h.directive hw).symm

theorem Visits.abreast {p : Partners σ} {q : Partners τ} {R : σ → τ → Prop} (hp : p.Concur q R)
    {i : Intervals} {s₀ s : State σ} {t₀ : State τ} (h₀ : s₀.Abreast R t₀) (h : Visits p i s₀ s) :
    ∃ t, Visits q i t₀ t ∧ s.Abreast R t := by
  induction h with
  | start => exact ⟨t₀.start i, .start, h₀.start i⟩
  | turn _ going free ih =>
    obtain ⟨t, ht, ha⟩ := ih
    obtain ⟨hmode, htold⟩ := ha.going
    exact ⟨t.turn q i, ht.turn (hmode ▸ going) (htold ▸ free), ha.turn hp i⟩
  | finish _ going told ih =>
    obtain ⟨t, ht, ha⟩ := ih
    obtain ⟨hmode, htold⟩ := ha.going
    exact ⟨t.finish, ht.finish (hmode ▸ going) (htold ▸ told), ha.finish⟩

/-- How many calls of each kind were made, and how many sends went well. -/
structure Numbers where
  pings : Nat
  prepares : Nat
  sends : Nat
  posts : Nat

/-- Replies that depend only on the numbers of the calls. -/
structure Plan where
  ping : Numbers → Reply Directive
  prepare : Numbers → Reply Unit
  send : Numbers → Reply Unit
  directive : Numbers → Directive

namespace Plan

def partners (p : Plan) : Partners Numbers where
  ping _ _ n := (p.ping n, { n with pings := n.pings + 1 })
  prepare _ _ n := (p.prepare n, { n with prepares := n.prepares + 1 })
  send _ n :=
    (p.send n, { n with
      sends := n.sends + 1
      posts := n.posts + if (p.send n).outcome.isOk then 1 else 0 })
  directive n := p.directive n

/-- Plans that have the same calls fail, and differ otherwise in redirects, in texts, and in hints
other than those of idle pings. -/
structure Agree (p q : Plan) : Prop where
  ping : ∀ n, (p.ping n).heeded Directive.pace = (q.ping n).heeded Directive.pace
  prepare : ∀ n, (p.prepare n).heeded id = (q.prepare n).heeded id
  send : ∀ n, (p.send n).heeded id = (q.send n).heeded id
  directive : ∀ n, (p.directive n).status = (q.directive n).status

theorem Agree.concur {p q : Plan} (h : p.Agree q) : p.partners.Concur q.partners Eq where
  ping := by
    rintro n _ now e e' rfl
    exact ⟨h.ping n, rfl⟩
  prepare := by
    rintro n _ now e e' rfl
    exact ⟨h.prepare n, rfl⟩
  send := by
    rintro n _ now rfl
    have hok : (p.send n).outcome.isOk = (q.send n).outcome.isOk := by
      obtain ⟨-, -, ⟨e, e', hr, hr'⟩ | ⟨u, u', hr, hr', -⟩⟩ := Reply.of_heeded_eq (h.send n)
      · simp only [hr, hr', Except.isOk, Except.toBool]
      · simp only [hr, hr', Except.isOk, Except.toBool]
    refine ⟨h.send n, ?_⟩
    simp only [partners, hok]
  directive := by
    rintro n _ rfl
    exact h.directive n

end Plan

/-- Two runs whose replies differ in redirects, and in hints other than those of idle pings, make
calls of the same kinds at the same times. They return after as many turns, at the same time, and
have counted the same but for redirects. -/
theorem same_but_for_redirects {p q : Plan} (h : p.Agree q) (i : Intervals) (clock : Nat)
    (before : Bool) (wait : Option Nat) (n : Numbers) :
    (∀ turns,
      ((State.opening clock before wait n).run p.partners i turns).map State.outline =
        ((State.opening clock before wait n).run q.partners i turns).map State.outline) ∧
    ∀ o, (∃ s, Visits p.partners i (State.opening clock before wait n) s ∧ s.outline = o) ↔
      ∃ t, Visits q.partners i (State.opening clock before wait n) t ∧ t.outline = o := by
  have h₀ : (State.opening clock before wait n).Abreast Eq (State.opening clock before wait n) :=
    ⟨rfl, rfl⟩
  refine ⟨fun turns => (h₀.start i).goRound h.concur i turns, ?_⟩
  intro o
  constructor
  · rintro ⟨s, hs, rfl⟩
    obtain ⟨t, ht, ha⟩ := hs.abreast h.concur h₀
    exact ⟨t, ht, ha.outline.symm⟩
  · rintro ⟨t, ht, rfl⟩
    obtain ⟨s, hs, ha⟩ := ht.abreast h.concur.symm ⟨rfl, rfl⟩
    exact ⟨s, hs, ha.outline.symm⟩

/-- A redirect that holds for a while changes the endpoints and the counter of redirects. -/
theorem same_but_for_redirects_of_one_redirect :
    let plan (redirect : Option Redirect) (hint : Option Nat) : Plan :=
      { ping := fun n => ⟨3, n.pings = 2, .ok (if n.pings = 0 then ⟨.active, redirect, hint⟩
          else ⟨.idle, redirect, some 5⟩), []⟩
        prepare := fun _ => ⟨0, false, .ok (), []⟩
        send := fun _ => ⟨2, false, .ok (), []⟩
        directive := fun _ => ⟨.idle, none, hint⟩ }
    let p := plan (some ⟨"http://b", some 4⟩) (some 7)
    let q := plan none none
    let i : Intervals := ⟨10, 20, 30⟩
    let s₀ := State.opening 0 false none ⟨0, 0, 0, 0⟩
    p.Agree q ∧
      (s₀.run p.partners i 4).map State.outline = (s₀.run q.partners i 4).map State.outline ∧
      (s₀.run p.partners i 4).map (fun s => (s.tally.redirects, s.calls)) =
        some (3, [(0, .ping none), (3, .prepare (some "http://b")), (3, .send), (5, .directive),
          (5, .ping (some "http://b")), (13, .ping none)]) ∧
      (s₀.run q.partners i 4).map (fun s => (s.tally.redirects, s.calls)) =
        some (0, [(0, .ping none), (3, .prepare none), (3, .send), (5, .directive),
          (5, .ping none), (13, .ping none)]) := by
  intro plan p q i s₀
  have h : p.Agree q := by
    refine ⟨?_, fun _ => rfl, fun _ => rfl, fun _ => rfl⟩
    intro n
    by_cases hn : n.pings = 0
    · simp [p, q, plan, Reply.heeded, Directive.pace, Directive.isActive, Except.toOption, hn]
    · simp [p, q, plan, Reply.heeded, Directive.pace, Directive.isActive, Except.toOption, hn]
  exact ⟨h, (same_but_for_redirects h i 0 false none ⟨0, 0, 0, 0⟩).1 4, by decide +kernel,
    by decide +kernel⟩

end Loop

end LiveTelemetry
