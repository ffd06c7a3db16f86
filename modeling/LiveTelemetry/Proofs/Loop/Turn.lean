import LiveTelemetry.Proofs.Loop.Frame
/-!
How a cycle can go, and the states that a run visits. Main statements: a cycle takes one of seven
exits, each of which tells the state it leads to and the wait that follows; and a run ends in the
state that it visits as stopped.
-/
namespace LiveTelemetry.Loop

namespace State

/-- Makes a call that is given the endpoint in use now. -/
def askThere (s : State σ) (c : Option String → Call) (r : Reply α) (partners : σ) : State σ :=
  s.endpoint.2.ask (c s.endpoint.1) r partners

@[simp] theorem askThere_fields (s : State σ) (c : Option String → Call) (r : Reply α) (w : σ) :
    (s.askThere c r w).mode = s.mode ∧
    (s.askThere c r w).override = (Override.current s.override s.clock).1 ∧
    (s.askThere c r w).tally = s.tally ∧ (s.askThere c r w).clock = s.clock + r.latency ∧
    (s.askThere c r w).told =
      (s.told || r.stops || (s.stopBy (s.clock + r.latency)).isSome) ∧
    (s.askThere c r w).stopAt =
      (if s.stopBy (s.clock + r.latency) = none then s.stopAt else none) := by
  simp [askThere, stopBy]

@[simp] theorem askThere_history (s : State σ) (c : Option String → Call) (r : Reply α) (w : σ) :
    (s.askThere c r w).calls = s.calls ++ [(s.clock, c s.endpoint.1)] ∧
    (s.askThere c r w).firstStop = s.firstStop.or
      (if r.stops then some s.clock else s.stopBy (s.clock + r.latency)) ∧
    (s.askThere c r w).earlyCalls =
      s.earlyCalls ++ (if s.firstStop = none then [(s.clock, c s.endpoint.1)] else []) ∧
    (s.askThere c r w).lateCalls =
      s.lateCalls ++ (if s.firstStop = none then [] else [(s.clock, c s.endpoint.1)]) := by
  simp [askThere, stopBy]

/-- The reply to a ping that is made now. -/
def pingReply (p : Partners σ) (s : State σ) : Reply Directive :=
  (p.ping s.clock s.endpoint.1 s.partners).1

/-- The loop once its ping is answered. -/
abbrev pinged (p : Partners σ) (s : State σ) : State σ :=
  s.askThere .ping (s.pingReply p) (p.ping s.clock s.endpoint.1 s.partners).2

/-- The reply to a call to prepare that is made now. -/
def prepareReply (p : Partners σ) (s : State σ) : Reply Unit :=
  (p.prepare s.clock s.endpoint.1 s.partners).1

/-- The loop once it is prepared, or knows that it will not be. -/
abbrev prepared (p : Partners σ) (s : State σ) : State σ :=
  s.askThere .prepare (s.prepareReply p) (p.prepare s.clock s.endpoint.1 s.partners).2

/-- The reply to a send that is begun now. -/
def sendReply (p : Partners σ) (s : State σ) : Reply Unit := (p.send s.clock s.partners).1

/-- The loop once its send is over. -/
def sent (p : Partners σ) (s : State σ) : State σ :=
  s.ask .send (s.sendReply p) (p.send s.clock s.partners).2

/-- The loop once it has looked at the directive that a send left. -/
def observed (p : Partners σ) (s : State σ) : State σ :=
  (s.countPost.mark (.call .directive)).receive (p.directive s.partners)

theorem pingCycle_eq (p : Partners σ) (i : Intervals) (s : State σ) :
    s.pingCycle p i =
      match (s.pingReply p).outcome with
      | .error e =>
        ((s.pinged p).countFailure.note (.pingFailed e s.endpoint.1 i.error), some i.error)
      | .ok d =>
        if d.isActive then
          ((((s.pinged p).countPing.receive d).endpoint.2.note
            (.serviceActive ((s.pinged p).countPing.receive d).endpoint.1)).activate, none)
        else
          (((s.pinged p).countPing.receive d).note (.serviceIdle (d.hint.getD i.ping)),
            some (d.hint.getD i.ping)) := by
  obtain ⟨-, -, -, hc, -, -, hp⟩ := s.endpoint_fields
  rw [pinged, pingReply, ← hc, ← hp]
  rfl

theorem observe_eq (p : Partners σ) (i : Intervals) (s : State σ) :
    s.observe p i =
      if (p.directive s.partners).isActive then (s.observed p, some i.post)
      else (((s.observed p).note .sendingEnded).deactivate, none) :=
  rfl

theorem postCycle_eq (p : Partners σ) (i : Intervals) (s : State σ) :
    s.postCycle p i =
      match (s.prepareReply p).outcome with
      | .error e => ((s.prepared p).countFailure.note (.prepareFailed e s.endpoint.1), some i.error)
      | .ok () =>
        match ((s.prepared p).sendReply p).outcome with
        | .error e =>
          (((s.prepared p).sent p).countFailure.note (.sendFailed e s.endpoint.1), some i.error)
        | .ok () => ((s.prepared p).sent p).observe p i := by
  obtain ⟨-, -, -, hc, -, -, hp⟩ := s.endpoint_fields
  rw [prepared, prepareReply, ← hc, ← hp]
  rfl

@[simp] theorem sent_fields (p : Partners σ) (s : State σ) :
    (s.sent p).mode = s.mode ∧ (s.sent p).override = s.override ∧
    (s.sent p).tally = s.tally ∧ (s.sent p).clock = s.clock + (s.sendReply p).latency ∧
    (s.sent p).told = (s.told || (s.sendReply p).stops ||
      (s.stopBy (s.clock + (s.sendReply p).latency)).isSome) ∧
    (s.sent p).stopAt =
      (if s.stopBy (s.clock + (s.sendReply p).latency) = none then s.stopAt else none) := by
  simp [sent]

@[simp] theorem observed_fields (p : Partners σ) (s : State σ) :
    (s.observed p).mode = s.mode ∧
    (s.observed p).override =
      (Override.apply s.override (p.directive s.partners) s.clock).1 ∧
    (s.observed p).clock = s.clock ∧ (s.observed p).told = s.told ∧
    (s.observed p).stopAt = s.stopAt ∧ (s.observed p).partners = s.partners := by
  simp [observed]

@[simp] theorem sent_history (p : Partners σ) (s : State σ) :
    (s.sent p).calls = s.calls ++ [(s.clock, .send)] ∧
    (s.sent p).firstStop = s.firstStop.or (if (s.sendReply p).stops then some s.clock
      else s.stopBy (s.clock + (s.sendReply p).latency)) ∧
    (s.sent p).earlyCalls =
      s.earlyCalls ++ (if s.firstStop = none then [(s.clock, .send)] else []) ∧
    (s.sent p).lateCalls =
      s.lateCalls ++ (if s.firstStop = none then [] else [(s.clock, .send)]) := by
  simp [sent]

@[simp] theorem observed_history (p : Partners σ) (s : State σ) :
    (s.observed p).calls = s.calls ++ [(s.clock, .directive)] ∧
    (s.observed p).firstStop = s.firstStop ∧
    (s.observed p).earlyCalls =
      s.earlyCalls ++ (if s.firstStop = none then [(s.clock, .directive)] else []) ∧
    (s.observed p).lateCalls =
      s.lateCalls ++ (if s.firstStop = none then [] else [(s.clock, .directive)]) := by
  simp [observed]

/-- The loop after the wait that a cycle asks for, if any. -/
def rest (s : State σ) (wait : Option Nat) : State σ := wait.elim s s.sleep

theorem turn_eq (p : Partners σ) (i : Intervals) (s : State σ) :
    s.turn p i = (s.cycle p i).1.rest (s.cycle p i).2 := by
  rw [turn]
  split <;> simp_all [rest]

@[simp] theorem rest_fields (s : State σ) (wait : Option Nat) :
    (s.rest wait).mode = s.mode ∧ (s.rest wait).override = s.override ∧
    (s.rest wait).tally = s.tally ∧ (s.rest wait).partners = s.partners := by
  cases wait <;> simp [rest]

@[simp] theorem rest_history (s : State σ) (wait : Option Nat) :
    (s.rest wait).calls = s.calls ∧ (s.rest wait).earlyCalls = s.earlyCalls ∧
    (s.rest wait).lateCalls = s.lateCalls := by
  cases wait <;> simp [rest]

end State

/-- The ways out of a cycle, each with the state that it leads to and the wait that follows. -/
inductive Exit (p : Partners σ) (i : Intervals) (s : State σ) : State σ → Option Nat → Prop where
  | pingFailed {e : String} (mode : s.mode = .pinging)
      (reply : (s.pingReply p).outcome = .error e) :
      Exit p i s ((s.pinged p).countFailure.note (.pingFailed e s.endpoint.1 i.error))
        (some i.error)
  | activated {d : Directive} (mode : s.mode = .pinging)
      (reply : (s.pingReply p).outcome = .ok d) (active : d.isActive = true) :
      Exit p i s
        (((s.pinged p).countPing.receive d).endpoint.2.note
          (.serviceActive ((s.pinged p).countPing.receive d).endpoint.1)).activate
        none
  | idle {d : Directive} (mode : s.mode = .pinging)
      (reply : (s.pingReply p).outcome = .ok d) (idle : d.isActive = false) :
      Exit p i s (((s.pinged p).countPing.receive d).note (.serviceIdle (d.hint.getD i.ping)))
        (some (d.hint.getD i.ping))
  | prepareFailed {e : String} (mode : s.mode = .sending)
      (reply : (s.prepareReply p).outcome = .error e) :
      Exit p i s ((s.prepared p).countFailure.note (.prepareFailed e s.endpoint.1)) (some i.error)
  | sendFailed {e : String} (mode : s.mode = .sending)
      (prepared : (s.prepareReply p).outcome = .ok ())
      (reply : ((s.prepared p).sendReply p).outcome = .error e) :
      Exit p i s (((s.prepared p).sent p).countFailure.note (.sendFailed e s.endpoint.1))
        (some i.error)
  | posted (mode : s.mode = .sending) (prepared : (s.prepareReply p).outcome = .ok ())
      (reply : ((s.prepared p).sendReply p).outcome = .ok ())
      (active : (p.directive ((s.prepared p).sent p).partners).isActive = true) :
      Exit p i s (((s.prepared p).sent p).observed p) (some i.post)
  | deactivated (mode : s.mode = .sending) (prepared : (s.prepareReply p).outcome = .ok ())
      (reply : ((s.prepared p).sendReply p).outcome = .ok ())
      (idle : (p.directive ((s.prepared p).sent p).partners).isActive = false) :
      Exit p i s ((((s.prepared p).sent p).observed p).note .sendingEnded).deactivate none

theorem cycle_exit (p : Partners σ) (i : Intervals) {s : State σ} (h : s.mode ≠ .stopped) :
    Exit p i s (s.cycle p i).1 (s.cycle p i).2 := by
  cases hm : s.mode with
  | stopped => exact absurd hm h
  | pinging =>
    simp only [State.cycle, hm, State.pingCycle_eq]
    cases hr : (s.pingReply p).outcome with
    | error e => exact .pingFailed hm hr
    | ok d =>
      cases ha : d.isActive with
      | true => simpa [ha] using Exit.activated hm hr ha
      | false => simpa [ha] using Exit.idle hm hr ha
  | sending =>
    simp only [State.cycle, hm, State.postCycle_eq]
    cases hr : (s.prepareReply p).outcome with
    | error e => exact .prepareFailed hm hr
    | ok u =>
      cases hq : ((s.prepared p).sendReply p).outcome with
      | error e => exact .sendFailed hm hr hq
      | ok u =>
        simp only [State.observe_eq]
        cases ha : (p.directive ((s.prepared p).sent p).partners).isActive with
        | true => exact .posted hm hr hq ha
        | false => exact .deactivated hm hr hq ha

namespace State

/-- A loop about to run, which has been told to stop before, or will be told from outside after a
wait, or both, or neither. -/
def opening (clock : Nat) (before : Bool) (wait : Option Nat) (partners : σ) : State σ :=
  let s := fresh clock false (wait.map (clock + ·)) partners
  if before then s.tell else s

@[simp] theorem opening_fields (clock : Nat) (before : Bool) (wait : Option Nat) (w : σ) :
    (opening clock before wait w).mode = .pinging ∧
    (opening clock before wait w).override = none ∧
    (opening clock before wait w).clock = clock ∧
    (opening clock before wait w).told = before ∧
    (opening clock before wait w).stopAt = wait.map (clock + ·) := by
  cases before <;> simp [opening, fresh]

@[simp] theorem opening_history (clock : Nat) (before : Bool) (wait : Option Nat) (w : σ) :
    (opening clock before wait w).calls = [] ∧
    (opening clock before wait w).firstStop = (if before then some clock else none) ∧
    (opening clock before wait w).earlyCalls = [] ∧
    (opening clock before wait w).lateCalls = [] := by
  cases before with
  | false => exact ⟨rfl, rfl, rfl, rfl⟩
  | true => exact ⟨rfl, rfl, rfl, rfl⟩

end State

/-- The states of a run from `s₀`: at its start, after each turn, and at its end. -/
inductive Visits (p : Partners σ) (i : Intervals) (s₀ : State σ) : State σ → Prop where
  | start : Visits p i s₀ (s₀.start i)
  | turn {s : State σ} (earlier : Visits p i s₀ s) (going : s.mode ≠ .stopped)
      (free : s.told = false) : Visits p i s₀ (s.turn p i)
  | finish {s : State σ} (earlier : Visits p i s₀ s) (going : s.mode ≠ .stopped)
      (told : s.told = true) : Visits p i s₀ s.finish

theorem turn_exit (p : Partners σ) (i : Intervals) {s : State σ} (h : s.mode ≠ .stopped) :
    ∃ t wait, Exit p i s t wait ∧ s.turn p i = t.rest wait :=
  ⟨_, _, cycle_exit p i h, s.turn_eq p i⟩

namespace State

theorem askThere_partners (s : State σ) (c : Option String → Call) (r : Reply α) (w : σ) :
    (s.askThere c r w).partners = w := by
  rw [askThere, (ask_fields ..).2.2.2.2.2.2]

theorem sent_partners (p : Partners σ) (s : State σ) :
    (s.sent p).partners = (p.send s.clock s.partners).2 := by
  rw [sent, (ask_fields ..).2.2.2.2.2.2]

end State

/-- The calls that a cycle makes, as the partners know them. -/
theorem Exit.partners_eq {p : Partners σ} {i : Intervals} {s t : State σ} {wait : Option Nat}
    (h : Exit p i s t wait) :
    (s.mode = .pinging ∧ t.partners = (s.pinged p).partners) ∨
    (s.mode = .sending ∧ (∃ e, (s.prepareReply p).outcome = .error e) ∧
      t.partners = (s.prepared p).partners) ∨
    (s.mode = .sending ∧ (s.prepareReply p).outcome = .ok () ∧
      t.partners = ((s.prepared p).sent p).partners) := by
  cases h with
  | pingFailed mode reply => exact .inl ⟨mode, by simp⟩
  | activated mode reply active => exact .inl ⟨mode, by simp⟩
  | idle mode reply idle => exact .inl ⟨mode, by simp⟩
  | prepareFailed mode reply => exact .inr (.inl ⟨mode, ⟨_, reply⟩, by simp⟩)
  | sendFailed mode prepared reply => exact .inr (.inr ⟨mode, prepared, by simp⟩)
  | posted mode prepared reply active => exact .inr (.inr ⟨mode, prepared, by simp⟩)
  | deactivated mode prepared reply idle => exact .inr (.inr ⟨mode, prepared, by simp⟩)

/-- What each call to the partners keeps is true of them all along a run. -/
theorem Visits.keeps {p : Partners σ} {i : Intervals} {P : σ → Prop} {s₀ s : State σ}
    (ping : ∀ now e w, P w → P (p.ping now e w).2)
    (prepare : ∀ now e w, P w → P (p.prepare now e w).2)
    (send : ∀ now w, P w → P (p.send now w).2) (h₀ : P s₀.partners) (h : Visits p i s₀ s) :
    P s.partners := by
  induction h with
  | start => exact h₀
  | @turn s _ going _ ih =>
    have hprepared : P (s.prepared p).partners := by
      rw [State.prepared, State.askThere_partners]
      exact prepare _ _ _ ih
    obtain ⟨t, wait, he, ht⟩ := turn_exit p i going
    rw [ht, (t.rest_fields wait).2.2.2]
    rcases he.partners_eq with ⟨-, hp⟩ | ⟨-, -, hp⟩ | ⟨-, -, hp⟩
    · rw [hp, State.pinged, State.askThere_partners]
      exact ping _ _ _ ih
    · rw [hp]
      exact hprepared
    · rw [hp, State.sent_partners]
      exact send _ _ hprepared
  | finish _ _ _ ih => exact ih

theorem turn_going (p : Partners σ) (i : Intervals) {s : State σ} (h : s.mode ≠ .stopped) :
    (s.turn p i).mode ≠ .stopped := by
  obtain ⟨t, wait, he, ht⟩ := turn_exit p i h
  rw [ht, (t.rest_fields wait).1]
  cases he <;> simp [*]

theorem State.goRound_of_told (p : Partners σ) (i : Intervals) {s : State σ} (h : s.told = true)
    (n : Nat) : s.goRound p i n = some s.finish := by
  cases n <;> simp [goRound, h]

theorem Visits.of_goRound {p : Partners σ} {i : Intervals} {s₀ s t : State σ} {n : Nat}
    (hv : Visits p i s₀ t) (ht : t.mode ≠ .stopped) (h : t.goRound p i n = some s) :
    Visits p i s₀ s ∧ s.mode = .stopped := by
  induction n generalizing t with
  | zero =>
    cases told : t.told with
    | false => simp [State.goRound, told] at h
    | true =>
      simp only [State.goRound, told, ↓reduceIte, Option.some.injEq] at h
      subst s
      exact ⟨hv.finish ht told, by simp⟩
  | succ n ih =>
    cases told : t.told with
    | false =>
      simp only [State.goRound, told, Bool.false_eq_true, ↓reduceIte] at h
      exact ih (hv.turn ht told) (turn_going p i ht) h
    | true =>
      simp only [State.goRound, told, ↓reduceIte, Option.some.injEq] at h
      subst s
      exact ⟨hv.finish ht told, by simp⟩

/-- A state that is visited and not stopped is where the run stands after so many turns. -/
theorem Visits.run_eq {p : Partners σ} {i : Intervals} {s₀ s : State σ} (h : Visits p i s₀ s)
    (h₀ : s₀.mode ≠ .stopped) :
    (s.mode ≠ .stopped → ∃ k, ∀ n, s₀.run p i (k + n) = s.goRound p i n) ∧
    (s.mode = .stopped → ∃ n, s₀.run p i n = some s) := by
  induction h with
  | start => exact ⟨fun _ => ⟨0, fun n => by rw [Nat.zero_add]; rfl⟩, fun hm => absurd hm h₀⟩
  | @turn s _ going free ih =>
    refine ⟨fun _ => ?_, fun hm => absurd hm (turn_going p i going)⟩
    obtain ⟨k, hk⟩ := ih.1 going
    refine ⟨k + 1, fun n => ?_⟩
    rw [Nat.add_right_comm, Nat.add_assoc, hk (n + 1)]
    simp [State.goRound, free]
  | @finish s _ going told ih =>
    refine ⟨fun hm => absurd (by simp) hm, fun _ => ?_⟩
    obtain ⟨k, hk⟩ := ih.1 going
    exact ⟨k, by simpa [State.goRound, told] using hk 0⟩

/-- A run that ends leaves a state that it visits, and no other state that it visits is stopped. -/
theorem run_eq_some_iff {p : Partners σ} {i : Intervals} {s₀ s : State σ}
    (h₀ : s₀.mode ≠ .stopped) :
    (∃ n, s₀.run p i n = some s) ↔ Visits p i s₀ s ∧ s.mode = .stopped := by
  constructor
  · rintro ⟨n, hn⟩
    exact Visits.start.of_goRound h₀ hn
  · rintro ⟨hv, hm⟩
    exact (hv.run_eq h₀).2 hm

/-- A run that is over was told to stop in the last state that it visited before. -/
theorem Visits.exists_told {p : Partners σ} {i : Intervals} {s₀ s : State σ}
    (h : Visits p i s₀ s) (h₀ : s₀.mode ≠ .stopped) (hm : s.mode = .stopped) :
    ∃ t, Visits p i s₀ t ∧ t.mode ≠ .stopped ∧ t.told = true ∧ s = t.finish := by
  cases h with
  | start => exact absurd hm h₀
  | turn _ going _ => exact absurd hm (turn_going p i going)
  | finish earlier going told => exact ⟨_, earlier, going, told, rfl⟩

end LiveTelemetry.Loop
