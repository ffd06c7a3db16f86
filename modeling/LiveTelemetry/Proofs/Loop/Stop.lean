import LiveTelemetry.Loop.Script
import LiveTelemetry.Proofs.Loop.Clock
import LiveTelemetry.Proofs.Loop.Watch
/-!
What the first stop does to a run. Main statement: no call is begun after it, but for the send of a
cycle whose call to prepare was under way and went well.
-/
namespace LiveTelemetry.Loop

/-- Whether the loop waits for the call to return. -/
def Call.isAwaited (c : Call) : Bool := c != .directive

namespace State

/-- The awaited calls begun before the first stop. -/
def begunBefore (s : State σ) : List (Nat × Call) := s.earlyCalls.filter (·.2.isAwaited)

/-- The awaited calls begun after the first stop. -/
def begunAfter (s : State σ) : List (Nat × Call) := s.lateCalls.filter (·.2.isAwaited)

/-- Two states that are alike in all that tells how a stop is taken. -/
structure Alike (s t : State (Watched σ)) : Prop where
  told : t.told = s.told
  firstStop : t.firstStop = s.firstStop
  before : t.begunBefore = s.begunBefore
  after : t.begunAfter = s.begunAfter
  seen : t.partners.seen = s.partners.seen

/-- No stop has come. -/
structure Free (s : State (Watched σ)) : Prop where
  told : s.told = false
  firstStop : s.firstStop = none
  before : s.begunBefore = s.partners.seen.map Exchange.call
  after : s.begunAfter = []

/-- The first stop came at `t`, after the exchanges `pre` were begun and before `post` were. -/
structure Cut (t : Nat) (pre post : List Exchange) (s : State (Watched σ)) : Prop where
  told : s.told = true
  firstStop : s.firstStop = some t
  before : s.begunBefore = pre.map Exchange.call
  after : s.begunAfter = post.map Exchange.call
  seen : s.partners.seen = pre ++ post

theorem Free.congr {s t : State (Watched σ)} (h : s.Free) (ha : Alike s t) : t.Free :=
  ⟨ha.told.trans h.told, ha.firstStop.trans h.firstStop,
    by rw [ha.before, ha.seen, h.before], ha.after.trans h.after⟩

theorem Cut.congr {t : Nat} {pre post : List Exchange} {s s' : State (Watched σ)}
    (h : Cut t pre post s) (ha : Alike s s') : Cut t pre post s' :=
  ⟨ha.told.trans h.told, ha.firstStop.trans h.firstStop, ha.before.trans h.before,
    ha.after.trans h.after, ha.seen.trans h.seen⟩

/-- To read the directive is not a call that the loop waits for. -/
theorem alike_observed (p : Partners (Watched σ)) (s : State (Watched σ)) :
    Alike s (s.observed p) := by
  obtain ⟨-, hf, he, hl⟩ := s.observed_history p
  refine ⟨by simp, hf, ?_, ?_, by simp⟩
  · rw [begunBefore, he, List.filter_append]
    split <;> simp [begunBefore, Call.isAwaited]
  · rw [begunAfter, hl, List.filter_append]
    split <;> simp [begunAfter, Call.isAwaited]

theorem Alike.trans {r s t : State (Watched σ)} (h : Alike r s) (h' : Alike s t) : Alike r t :=
  ⟨h'.told.trans h.told, h'.firstStop.trans h.firstStop, h'.before.trans h.before,
    h'.after.trans h.after, h'.seen.trans h.seen⟩

/-- No stop has come, or the first one came while the last exchange `x` was under way. -/
def FreeBefore (x : Exchange) (s : State (Watched σ)) : Prop :=
  s.Free ∨ ∃ t, x.begun ≤ t ∧ t ≤ x.ended ∧ Cut t s.partners.seen [] s

/-- A loop that is free when it makes a call stays free, or the first stop comes while the call is
under way. -/
theorem Free.ask {s : State (Watched σ)} (h : s.Free) (ht : s.Timely) {c : Call} {r : Reply α}
    {w : Watched σ} {x : Exchange} (hc : c.isAwaited = true) (hx : x.call = (s.clock, c))
    (hb : x.begun = s.clock) (he : x.ended = s.clock + r.latency)
    (hw : (s.ask c r w).partners.seen = s.partners.seen ++ [x]) : (s.ask c r w).FreeBefore x := by
  obtain ⟨-, haf, hae, hal⟩ := s.ask_history c r w
  rw [h.firstStop, Option.none_or] at haf
  have hbefore : (s.ask c r w).begunBefore = (s.ask c r w).partners.seen.map Exchange.call := by
    rw [begunBefore, hae, List.filter_append, ← begunBefore, h.before, hw]
    simp [h.firstStop, hc, hx]
  have hafter : (s.ask c r w).begunAfter = [] := by
    rw [begunAfter, hal, List.filter_append, ← begunAfter, h.after]
    simp [h.firstStop]
  cases hr : r.stops with
  | true =>
    refine .inr ⟨s.clock, by omega, by omega, ?_, ?_, hbefore, hafter, by simp⟩
    · simp [hr]
    · simp [haf, hr]
  | false =>
    cases hs : s.stopBy (s.clock + r.latency) with
    | none =>
      refine .inl ⟨?_, ?_, hbefore, hafter⟩
      · simp [hr, hs, h.told]
      · simp [haf, hr, hs]
    | some due =>
      obtain ⟨hdue, hle⟩ := Option.filter_eq_some_iff.1 hs
      have hlate : due ≤ s.clock + r.latency := of_decide_eq_true hle
      have hearly : s.clock ≤ due := ht due hdue
      refine .inr ⟨due, by omega, by omega, ?_, ?_, hbefore, hafter, by simp⟩
      · simp [hs]
      · simp [haf, hr, hs]

/-- A call that a loop makes after the first stop. -/
theorem Cut.ask {t : Nat} {pre post : List Exchange} {s : State (Watched σ)}
    (h : Cut t pre post s) {c : Call} {r : Reply α} {w : Watched σ} {x : Exchange}
    (hc : c.isAwaited = true) (hx : x.call = (s.clock, c))
    (hw : (s.ask c r w).partners.seen = s.partners.seen ++ [x]) :
    Cut t pre (post ++ [x]) (s.ask c r w) := by
  obtain ⟨-, haf, hae, hal⟩ := s.ask_history c r w
  refine ⟨?_, ?_, ?_, ?_, ?_⟩
  · simp [h.told]
  · simp [haf, h.firstStop]
  · rw [begunBefore, hae, List.filter_append, ← begunBefore, h.before]
    simp [h.firstStop]
  · rw [begunAfter, hal, List.filter_append, ← begunAfter, h.after]
    simp [h.firstStop, hc, hx]
  · rw [hw, h.seen, List.append_assoc]

/-- The first stop may come while the loop waits after a cycle. -/
theorem Free.rest {s : State (Watched σ)} (h : s.Free) (wait : Option Nat) :
    (s.rest wait).Free ∨ ∃ t, Cut t s.partners.seen [] (s.rest wait) := by
  obtain ⟨-, he, hl⟩ := s.rest_history wait
  have hp : (s.rest wait).partners = s.partners := (s.rest_fields wait).2.2.2
  have hbefore : (s.rest wait).begunBefore = s.partners.seen.map Exchange.call := by
    rw [begunBefore, he, ← begunBefore, h.before]
  have hafter : (s.rest wait).begunAfter = [] := by
    rw [begunAfter, hl, ← begunAfter, h.after]
  cases wait with
  | none => exact .inl h
  | some wait =>
    have hr : s.rest (some wait) = _ := sleep_of_not_told h.told wait
    cases hs : s.stopBy (s.clock + min wait longestWait) with
    | none =>
      refine .inl ⟨?_, ?_, by rw [hbefore, hp], hafter⟩
      · simp [hr, hs, h.told]
      · simp [hr, hs, h.firstStop]
    | some due =>
      refine .inr ⟨due, ?_, ?_, hbefore, hafter, by rw [hp, List.append_nil]⟩
      · simp [hr, hs]
      · simp [hr, hs, h.firstStop]

theorem Cut.rest {t : Nat} {pre post : List Exchange} {s : State (Watched σ)}
    (h : Cut t pre post s) (wait : Option Nat) : Cut t pre post (s.rest wait) := by
  cases wait with
  | none => exact h
  | some wait =>
    have hr : s.rest (some wait) = s := sleep_of_told h.told wait
    rw [hr]
    exact h

/-- A call begins with a look at the endpoint, which takes no notice of a stop. -/
theorem alike_endpoint (s : State (Watched σ)) : Alike s s.endpoint.2 := by
  constructor <;> simp [begunBefore, begunAfter]

theorem Free.askThere {s : State (Watched σ)} (h : s.Free) (ht : s.Timely)
    {c : Option String → Call} {r : Reply α} {w : Watched σ} {x : Exchange}
    (hc : (c s.endpoint.1).isAwaited = true) (hx : x.call = (s.clock, c s.endpoint.1))
    (hb : x.begun = s.clock) (he : x.ended = s.clock + r.latency)
    (hw : (s.askThere c r w).partners.seen = s.partners.seen ++ [x]) :
    (s.askThere c r w).FreeBefore x := by
  have hs : s.endpoint.2.Timely := ht.congr (by simp) (by simp)
  obtain ⟨-, -, -, hclock, -, -, hpartners⟩ := s.endpoint_fields
  rw [← hclock] at hx hb he
  rw [← hpartners] at hw
  exact (h.congr s.alike_endpoint).ask hs hc hx hb he hw

theorem Free.pinged {s : State (Watched σ)} (h : s.Free) (ht : s.Timely) (p : Partners σ) :
    (s.pinged p.watched).FreeBefore (s.pingExchange p.watched) :=
  h.askThere ht rfl rfl rfl rfl (s.seen_pinged p)

theorem Free.prepared {s : State (Watched σ)} (h : s.Free) (ht : s.Timely) (p : Partners σ) :
    (s.prepared p.watched).FreeBefore (s.prepareExchange p.watched) :=
  h.askThere ht rfl rfl rfl rfl (s.seen_prepared p)

theorem Free.sent {s : State (Watched σ)} (h : s.Free) (ht : s.Timely) (p : Partners σ) :
    (s.sent p.watched).FreeBefore (s.sendExchange p.watched) :=
  h.ask ht rfl rfl rfl rfl (s.seen_sent p)

theorem Cut.sent {t : Nat} {pre post : List Exchange} {s : State (Watched σ)}
    (h : Cut t pre post s) (p : Partners σ) :
    Cut t pre (post ++ [s.sendExchange p.watched]) (s.sent p.watched) :=
  h.ask rfl rfl (s.seen_sent p)

end State

/-- How far a run goes on when the first stop comes at `t`: not at all, or up to the send of a cycle
whose call to prepare was under way and went well. -/
inductive Overrun (t : Nat) : List Exchange → List Exchange → Prop where
  | none {pre : List Exchange} (unprepared : ¬ Prepared pre) : Overrun t pre []
  | send {pre : List Exchange} {x y : Exchange} {e : Option String}
      {outcome : Except String Directive} (prepared : x.deed = .prepare e (.ok ()))
      (since : x.begun ≤ t) (still : t ≤ x.ended) (send : y.deed = .send outcome) :
      Overrun t (pre ++ [x]) [y]

/-- No stop has come, or the first one has cut the run short. -/
def Heeds (s : State (Watched σ)) : Prop :=
  s.Free ∨ ∃ t pre post, s.Cut t pre post ∧ Overrun t pre post

theorem Heeds.of_freeBefore {x : Exchange} {s t : State (Watched σ)} (h : s.FreeBefore x)
    (hu : ¬ Prepared s.partners.seen) (ha : s.Alike t) (wait : Option Nat) :
    Heeds (t.rest wait) := by
  rcases h with hf | ⟨τ, -, -, hc⟩
  · rcases (hf.congr ha).rest wait with hf | ⟨τ, hc⟩
    · exact .inl hf
    · rw [ha.seen] at hc
      exact .inr ⟨τ, _, _, hc, .none hu⟩
  · exact .inr ⟨τ, _, _, (hc.congr ha).rest wait, .none hu⟩

/-- The send of a cycle is begun even if the first stop came while the loop was told to prepare. -/
theorem Heeds.of_sent {p : Partners σ} {s t : State (Watched σ)} (h : s.Free) (ht : s.Timely)
    (prepared : (s.prepareReply p.watched).outcome = .ok ())
    (ha : ((s.prepared p.watched).sent p.watched).Alike t) (wait : Option Nat) :
    Heeds (t.rest wait) := by
  rcases h.prepared ht p with hf | ⟨τ, hsince, hstill, hc⟩
  · have hsent := hf.sent (State.ask_timely _ _ _ _) p
    refine .of_freeBefore hsent ?_ ha wait
    rw [State.seen_sent, prepared_append_singleton]
    rintro ⟨e, he⟩
    simp [State.sendExchange] at he
  · have hcut := ((hc.sent p).congr ha).rest wait
    rw [s.seen_prepared] at hcut
    exact .inr ⟨τ, _, _, hcut, .send (congrArg (Deed.prepare _) prepared) hsince hstill rfl⟩

/-- After the last call of a cycle, nothing happens in it that tells how a stop is taken. -/
theorem Exit.alike {p : Partners σ} {i : Intervals} {s t : State (Watched σ)} {wait : Option Nat}
    (h : Exit p.watched i s t wait) :
    (s.pinged p.watched).Alike t ∨
    (∃ e, (s.prepareReply p.watched).outcome = .error e) ∧ (s.prepared p.watched).Alike t ∨
    (s.prepareReply p.watched).outcome = .ok () ∧
      ((s.prepared p.watched).sent p.watched).Alike t := by
  cases h with
  | pingFailed mode reply =>
    refine .inl ?_
    constructor <;> simp [State.begunBefore, State.begunAfter]
  | activated mode reply active =>
    refine .inl ?_
    constructor <;> simp [State.begunBefore, State.begunAfter]
  | idle mode reply idle =>
    refine .inl ?_
    constructor <;> simp [State.begunBefore, State.begunAfter]
  | prepareFailed mode reply =>
    refine .inr (.inl ⟨⟨_, reply⟩, ?_⟩)
    constructor <;> simp [State.begunBefore, State.begunAfter]
  | sendFailed mode prepared reply =>
    refine .inr (.inr ⟨prepared, ?_⟩)
    constructor <;> simp [State.begunBefore, State.begunAfter]
  | posted mode prepared reply active =>
    exact .inr (.inr ⟨prepared, State.alike_observed p.watched _⟩)
  | deactivated mode prepared reply idle =>
    refine .inr (.inr ⟨prepared, (State.alike_observed p.watched _).trans ?_⟩)
    constructor <;> simp [State.begunBefore, State.begunAfter]

theorem Heeds.turn {p : Partners σ} {i : Intervals} {s : State (Watched σ)} (h : s.Free)
    (ht : s.Timely) (going : s.mode ≠ .stopped) : Heeds (s.turn p.watched i) := by
  obtain ⟨t, wait, he, hturn⟩ := turn_exit p.watched i going
  rw [hturn]
  rcases he.alike with ha | ⟨⟨e, reply⟩, ha⟩ | ⟨prepared, ha⟩
  · exact .of_freeBefore (h.pinged ht p) (by simp [State.pingExchange]) ha wait
  · exact .of_freeBefore (h.prepared ht p) (by simp [State.prepareExchange, reply]) ha wait
  · exact .of_sent h ht prepared ha wait

theorem Visits.heeds {p : Partners σ} {i : Intervals} {clock : Nat} {before : Bool}
    {wait : Option Nat} {w : σ} {s : State (Watched σ)}
    (h : Visits p.watched i ((State.opening clock before wait w).watch []) s) : Heeds s := by
  have ht : ((State.opening clock before wait w).watch []).Timely :=
    (State.opening_timely clock before wait w).congr (by simp) (by simp)
  induction h with
  | start =>
    cases before with
    | false => exact .inl ⟨rfl, rfl, rfl, rfl⟩
    | true => exact .inr ⟨clock, [], [], ⟨rfl, rfl, rfl, rfl, rfl⟩, .none not_prepared_nil⟩
  | turn earlier going free ih =>
    rcases ih with hf | ⟨t, pre, post, hc, -⟩
    · exact Heeds.turn hf (earlier.timely ht) going
    · exact absurd hc.told (by simp [free])
  | @finish s earlier going told ih =>
    have ha : s.Alike s.finish := by
      constructor <;> simp [State.begunBefore, State.begunAfter]
    rcases ih with hf | ⟨t, pre, post, hc, ho⟩
    · exact .inl (hf.congr ha)
    · exact .inr ⟨t, pre, post, hc.congr ha, ho⟩

/-- After the first stop no call is begun and the loop goes to its end, but for one case: if the
first stop comes while a call to prepare is under way, and that goes well, the send of its cycle is
still begun. -/
theorem calls_after_stop {p : Partners σ} {i : Intervals} {clock : Nat} {before : Bool}
    {wait : Option Nat} {w : σ} {xs : List Exchange} {s : State σ}
    (h : Runs p i (State.opening clock before wait w) xs s) {t : Nat}
    (hs : s.firstStop = some t) :
    ∃ pre post, xs = pre ++ post ∧
      s.begunBefore = pre.map Exchange.call ∧ s.begunAfter = post.map Exchange.call ∧
      Overrun t pre post ∧ (s.begunAfter = [] ↔ ¬ Prepared pre) ∧
      (s.mode ≠ .stopped → ∀ n, s.goRound p i n = some s.finish) := by
  have hh : Heeds (s.watch xs) := Visits.heeds h
  rcases hh with hf | ⟨t', pre, post, hc, ho⟩
  · have hn : s.firstStop = none := by simpa using hf.firstStop
    rw [hn] at hs
    contradiction
  · obtain rfl : t' = t := by simpa [hs] using hc.firstStop.symm
    have hafter : s.begunAfter = post.map Exchange.call := by
      simpa [State.begunAfter] using hc.after
    refine ⟨pre, post, hc.seen, by simpa [State.begunBefore] using hc.before, hafter, ho, ?_, ?_⟩
    · rw [hafter, List.map_eq_nil_iff]
      cases ho with
      | none unprepared => simpa using unprepared
      | send prepared since still send => simp [prepared]
    · have told : s.told = true := hc.told
      intro _ n
      cases n <;> simp [State.goRound, told]

/-- A loop that is told to stop while it is told to prepare sends afterwards. -/
theorem calls_after_stop_of_slow_prepare :
    let active : Directive := ⟨.active, none, none⟩
    let cast : Cast := ⟨.always active, ⟨[], ⟨5, .ok ()⟩⟩, .always none, .idle, some (.prepare, 1)⟩
    let i : Intervals := ⟨10, 20, 30⟩
    let s₀ := State.opening 0 false none cast
    let s := ((s₀.start i).turn Cast.partners i).turn Cast.partners i
    s.firstStop = some 0 ∧ s.begunAfter = [(5, .send)] ∧
    ∃ pre, s.begunBefore = pre.map Exchange.call ∧ Prepared pre := by
  intro active cast i s₀ s
  have hr : Runs Cast.partners i s₀ _ s :=
    (Runs.start.turn (by decide) rfl rfl).turn (by decide) rfl rfl
  obtain ⟨pre, post, -, hb, -, -, hp, -⟩ := calls_after_stop hr (t := 0) rfl
  exact ⟨rfl, rfl, pre, hb, by simpa using mt hp.2 (by decide)⟩

end LiveTelemetry.Loop
