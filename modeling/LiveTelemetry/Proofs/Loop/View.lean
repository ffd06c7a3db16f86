import LiveTelemetry.Proofs.Loop.Turn
/-!
Partners whose state shows that of other partners, and more. Main statements: partners that do the
same in what is shown take a loop through the same states, so a run with the ones is a run with the
others, and the other way round.
-/
namespace LiveTelemetry.Loop

/-- `q` does what `p` does, and `f` shows the state of `p` in that of `q`. -/
structure Partners.Shows (q : Partners τ) (p : Partners σ) (f : τ → σ) : Prop where
  ping : ∀ now e w, p.ping now e (f w) = ((q.ping now e w).1, f (q.ping now e w).2)
  prepare : ∀ now e w, p.prepare now e (f w) = ((q.prepare now e w).1, f (q.prepare now e w).2)
  send : ∀ now w, p.send now (f w) = ((q.send now w).1, f (q.send now w).2)
  directive : ∀ w, p.directive (f w) = q.directive w

namespace State

variable {q : Partners τ} {p : Partners σ} {f : τ → σ}

/-- The loop with the partners that `f` shows. -/
def through (f : τ → σ) (s : State τ) : State σ := { s with partners := f s.partners }

@[simp] theorem through_fields (f : τ → σ) (s : State τ) :
    (s.through f).mode = s.mode ∧ (s.through f).override = s.override ∧
    (s.through f).tally = s.tally ∧ (s.through f).clock = s.clock ∧
    (s.through f).told = s.told ∧ (s.through f).stopAt = s.stopAt ∧
    (s.through f).partners = f s.partners :=
  ⟨rfl, rfl, rfl, rfl, rfl, rfl, rfl⟩

theorem through_notes (f : τ → σ) (ns : List Notice) (s : State τ) :
    (ns.foldl note s).through f = ns.foldl note (s.through f) := by
  induction ns generalizing s with
  | nil => rfl
  | cons n ns ih => exact ih (s.note n)

theorem through_pass (f : τ → σ) (s : State τ) (t : Nat) :
    (s.pass t).through f = (s.through f).pass t := by
  unfold pass
  cases hd : s.stopAt with
  | none => simp [through, hd]
  | some due => by_cases hle : due ≤ t <;> simp [through, hd, hle, tellAt, tell, mark]

theorem through_ask (f : τ → σ) (s : State τ) (c : Call) (r : Reply α) (w : τ) :
    (s.ask c r w).through f = (s.through f).ask c r (f w) := by
  let m := if r.stops then (s.mark (.call c)).tell else s.mark (.call c)
  have hm : m.through f =
      if r.stops then ((s.through f).mark (.call c)).tell else (s.through f).mark (.call c) := by
    simp only [m]
    split <;> rfl
  have hc : m.clock = (m.through f).clock := rfl
  rw [ask, ask, through_notes, ← hm, ← hc]
  change List.foldl note { (m.pass _).through f with partners := f w } _ = _
  rw [through_pass]

theorem through_endpoint (f : τ → σ) (s : State τ) :
    (s.through f).endpoint = (s.endpoint.1, s.endpoint.2.through f) := by
  cases hc : (Override.current s.override s.clock).2 <;> simp [endpoint, through, hc, note, mark]

theorem through_receive (f : τ → σ) (s : State τ) (d : Directive) :
    (s.receive d).through f = (s.through f).receive d := by
  cases hc : (Override.apply s.override d s.clock).2 <;> simp [receive, through, hc, note, mark]

theorem through_sleep (f : τ → σ) (s : State τ) (wait : Nat) :
    (s.sleep wait).through f = (s.through f).sleep wait := by
  cases h : s.told with
  | true => rw [sleep_of_told h, sleep_of_told (s := s.through f) h]
  | false =>
    rw [sleep_of_not_told h, sleep_of_not_told (s := s.through f) h]
    exact congrArg (fun t : State σ => { t with
      clock := (s.stopBy (s.clock + min wait longestWait)).getD (s.clock + min wait longestWait) })
      (s.through_pass f (s.clock + min wait longestWait))

theorem through_askThere (f : τ → σ) (s : State τ) (c : Option String → Call) (r : Reply α)
    (w : τ) : (s.askThere c r w).through f = (s.through f).askThere c r (f w) := by
  rw [askThere, askThere, through_ask, through_endpoint]

theorem through_pinged (h : q.Shows p f) (s : State τ) :
    (s.through f).pinged p = (s.pinged q).through f ∧
    (s.through f).pingReply p = s.pingReply q := by
  have he : (s.through f).endpoint.1 = s.endpoint.1 := by rw [through_endpoint]
  have hp := h.ping s.clock s.endpoint.1 s.partners
  refine ⟨?_, ?_⟩
  · rw [through_askThere, pinged, pingReply, he]
    exact congrArg (fun r => (s.through f).askThere .ping r.1 r.2) hp
  · rw [pingReply, he]
    exact congrArg Prod.fst hp

theorem through_prepared (h : q.Shows p f) (s : State τ) :
    (s.through f).prepared p = (s.prepared q).through f ∧
    (s.through f).prepareReply p = s.prepareReply q := by
  have he : (s.through f).endpoint.1 = s.endpoint.1 := by rw [through_endpoint]
  have hp := h.prepare s.clock s.endpoint.1 s.partners
  refine ⟨?_, ?_⟩
  · rw [through_askThere, prepared, prepareReply, he]
    exact congrArg (fun r => (s.through f).askThere .prepare r.1 r.2) hp
  · rw [prepareReply, he]
    exact congrArg Prod.fst hp

theorem through_sent (h : q.Shows p f) (s : State τ) :
    (s.through f).sent p = (s.sent q).through f ∧
    (s.through f).sendReply p = s.sendReply q := by
  have hp := h.send s.clock s.partners
  refine ⟨?_, congrArg Prod.fst hp⟩
  rw [sent, sent, through_ask]
  exact congrArg (fun r => (s.through f).ask .send r.1 r.2) hp

theorem through_observed (h : q.Shows p f) (s : State τ) :
    (s.through f).observed p = (s.observed q).through f := by
  rw [observed, observed, through_receive, ← h.directive]
  rfl

theorem through_pingCycle (h : q.Shows p f) (i : Intervals) (s : State τ) :
    (s.through f).pingCycle p i = ((s.pingCycle q i).1.through f, (s.pingCycle q i).2) := by
  obtain ⟨hs, hr⟩ := through_pinged h s
  rw [pingCycle_eq, pingCycle_eq, hr, hs, through_endpoint]
  cases (s.pingReply q).outcome with
  | error e => rfl
  | ok d =>
    have hd : ((s.pinged q).through f).countPing.receive d =
        ((s.pinged q).countPing.receive d).through f :=
      (through_receive f (s.pinged q).countPing d).symm
    cases ha : d.isActive with
    | true =>
      simp only [hd, ha, ↓reduceIte, through_endpoint]
      rfl
    | false =>
      simp only [hd, ha, Bool.false_eq_true, ↓reduceIte]
      rfl

theorem through_observe (h : q.Shows p f) (i : Intervals) (s : State τ) :
    (s.through f).observe p i = ((s.observe q i).1.through f, (s.observe q i).2) := by
  have hd : p.directive (s.through f).partners = q.directive s.partners := h.directive _
  rw [observe_eq, observe_eq, through_observed h, hd]
  cases (q.directive s.partners).isActive <;> rfl

theorem through_postCycle (h : q.Shows p f) (i : Intervals) (s : State τ) :
    (s.through f).postCycle p i = ((s.postCycle q i).1.through f, (s.postCycle q i).2) := by
  obtain ⟨hs, hr⟩ := through_prepared h s
  obtain ⟨hs', hr'⟩ := through_sent h (s.prepared q)
  rw [postCycle_eq, postCycle_eq, hr, hs, hr', hs', through_endpoint]
  cases (s.prepareReply q).outcome with
  | error e => rfl
  | ok u =>
    cases ((s.prepared q).sendReply q).outcome with
    | error e => rfl
    | ok u => exact through_observe h i _

/-- A turn does the same with either partners. -/
theorem through_turn (h : q.Shows p f) (i : Intervals) (s : State τ) :
    (s.turn q i).through f = (s.through f).turn p i := by
  have hc : (s.through f).cycle p i = ((s.cycle q i).1.through f, (s.cycle q i).2) := by
    unfold cycle
    have hm : (s.through f).mode = s.mode := rfl
    cases hs : s.mode with
    | pinging => simp only [hm, hs, through_pingCycle h]
    | sending => simp only [hm, hs, through_postCycle h]
    | stopped => simp only [hm, hs]
  rw [turn_eq, turn_eq, hc]
  cases (s.cycle q i).2 with
  | none => rfl
  | some wait => exact through_sleep f _ wait

end State

variable {q : Partners τ} {p : Partners σ} {f : τ → σ}

theorem Visits.through (h : q.Shows p f) {i : Intervals} {t₀ t : State τ}
    (ht : Visits q i t₀ t) : Visits p i (t₀.through f) (t.through f) := by
  induction ht with
  | start => exact .start
  | turn _ going free ih =>
    rw [State.through_turn h]
    exact .turn ih going free
  | finish _ going told ih => exact .finish ih going told

/-- A run with the partners shown is one with the partners that show them. -/
theorem Visits.lift (h : q.Shows p f) {i : Intervals} (t₀ : State τ) {s : State σ}
    (hs : Visits p i (t₀.through f) s) : ∃ t, t.through f = s ∧ Visits q i t₀ t := by
  induction hs with
  | start => exact ⟨t₀.start i, rfl, .start⟩
  | turn _ going free ih =>
    obtain ⟨t, rfl, ht⟩ := ih
    exact ⟨t.turn q i, State.through_turn h i t, ht.turn going free⟩
  | finish _ going told ih =>
    obtain ⟨t, rfl, ht⟩ := ih
    exact ⟨t.finish, rfl, ht.finish going told⟩

end LiveTelemetry.Loop
