import LiveTelemetry.Settings
import LiveTelemetry.Loop.Script
import LiveTelemetry.Proofs.Loop.Order
/-!
The pace of a loop. Main statements: each exchange is begun when the one before it is over and the
pause that it calls for has passed, and hints count for idle pings only.
-/
namespace LiveTelemetry

/-- The directive without its hint. -/
def Directive.mute (d : Directive) : Directive := { d with hint := none }

namespace Loop

/-- How long the loop is to wait after an exchange. -/
def Exchange.pause (i : Intervals) (x : Exchange) : Nat :=
  match x.deed with
  | .ping _ (.error _) => i.error
  | .ping _ (.ok d) => if d.isActive then 0 else d.hint.getD i.ping
  | .prepare _ (.error _) => i.error
  | .prepare _ (.ok ()) => 0
  | .send (.error _) => i.error
  | .send (.ok d) => if d.isActive then i.post else 0

/-- When the loop goes on after exchanges that begin at `opened`. No timer lasts longer than
`longestWait`. -/
def due (i : Intervals) (opened : Nat) (xs : List Exchange) : Nat :=
  (xs.getLast?.map fun x => x.ended + min (x.pause i) longestWait).getD opened

@[simp] theorem due_nil (i : Intervals) (opened : Nat) : due i opened [] = opened := rfl

@[simp] theorem due_snoc (i : Intervals) (opened : Nat) (xs : List Exchange) (x : Exchange) :
    due i opened (xs ++ [x]) = x.ended + min (x.pause i) longestWait := by
  simp [due]

/-- Each exchange is begun when it is due. -/
def OnTime (i : Intervals) (opened : Nat) (xs : List Exchange) : Prop :=
  ∀ pre x post, xs = pre ++ x :: post → x.begun = due i opened pre

namespace OnTime

theorem nil (i : Intervals) (opened : Nat) : OnTime i opened [] := by
  intro pre x post h
  simp at h

theorem snoc {i : Intervals} {opened : Nat} {xs : List Exchange} {x : Exchange}
    (h : OnTime i opened xs) (hx : x.begun = due i opened xs) : OnTime i opened (xs ++ [x]) := by
  intro pre y post hxs
  rcases snoc_eq_append_cons hxs with ⟨rfl, rfl, -⟩ | ⟨rest, -, hrest⟩
  · exact hx
  · exact h pre y rest hrest

end OnTime

/-- How a cycle takes its time: its calls follow at once on one another, and its last exchange calls
for the wait. -/
theorem Exit.onTime {p : Partners σ} {i : Intervals} {s t : State (Watched σ)} {wait : Option Nat}
    (h : Exit p.watched i s t wait) {opened : Nat} (hs : OnTime i opened s.partners.seen)
    (hc : s.clock = due i opened s.partners.seen) :
    OnTime i opened t.partners.seen ∧ ∃ ys y, t.partners.seen = s.partners.seen ++ (ys ++ [y]) ∧
      y.ended = t.clock ∧ y.pause i = wait.getD 0 ∧ ∀ z ∈ ys, z.pause i = 0 := by
  have hping : OnTime i opened (s.partners.seen ++ [s.pingExchange p.watched]) := hs.snoc hc
  have hprepare : OnTime i opened (s.partners.seen ++ [s.prepareExchange p.watched]) := hs.snoc hc
  have hfree (ready : (s.prepareReply p.watched).outcome = .ok ()) :
      (s.prepareExchange p.watched).pause i = 0 := by
    simp [Exchange.pause, State.prepareExchange, ready]
  have hsend (ready : (s.prepareReply p.watched).outcome = .ok ()) :
      OnTime i opened (s.partners.seen ++ [s.prepareExchange p.watched] ++
        [(s.prepared p.watched).sendExchange p.watched]) := by
    apply hprepare.snoc
    rw [due_snoc, hfree ready]
    simp [State.sendExchange, State.prepareExchange]
  cases h with
  | pingFailed mode reply =>
    refine ⟨by simpa using hping, [], s.pingExchange p.watched, by simp, ?_, ?_, by simp⟩
    · simp [State.pingExchange]
    · simp [Exchange.pause, State.pingExchange, reply]
  | activated mode reply active =>
    refine ⟨by simpa using hping, [], s.pingExchange p.watched, by simp, ?_, ?_, by simp⟩
    · simp [State.pingExchange]
    · simp [Exchange.pause, State.pingExchange, reply, active]
  | idle mode reply idle =>
    refine ⟨by simpa using hping, [], s.pingExchange p.watched, by simp, ?_, ?_, by simp⟩
    · simp [State.pingExchange]
    · simp [Exchange.pause, State.pingExchange, reply, idle]
  | prepareFailed mode reply =>
    refine ⟨by simpa using hprepare, [], s.prepareExchange p.watched, by simp, ?_, ?_, by simp⟩
    · simp [State.prepareExchange]
    · simp [Exchange.pause, State.prepareExchange, reply]
  | sendFailed mode ready reply =>
    refine ⟨by simpa using hsend ready, [s.prepareExchange p.watched],
      (s.prepared p.watched).sendExchange p.watched, by simp, ?_, ?_, by simpa using hfree ready⟩
    · simp [State.sendExchange]
    · simp [Exchange.pause, State.sendExchange, reply, Except.map]
  | posted mode ready reply active =>
    refine ⟨by simpa using hsend ready, [s.prepareExchange p.watched],
      (s.prepared p.watched).sendExchange p.watched, by simp, ?_, ?_, by simpa using hfree ready⟩
    · simp [State.sendExchange]
    · simp [Exchange.pause, State.sendExchange, reply, Except.map, active]
  | deactivated mode ready reply idle =>
    refine ⟨by simpa using hsend ready, [s.prepareExchange p.watched],
      (s.prepared p.watched).sendExchange p.watched, by simp, ?_, ?_, by simpa using hfree ready⟩
    · simp [State.sendExchange]
    · simp [Exchange.pause, State.sendExchange, reply, Except.map, idle]

/-- A wait that no stop cuts short lasts as long as it is to, or as long as a timer can. -/
theorem State.rest_clock {s : State σ} {wait : Option Nat} (h : (s.rest wait).told = false) :
    (s.rest wait).clock = s.clock + min (wait.getD 0) longestWait := by
  cases wait with
  | none => simp [State.rest]
  | some wait =>
    cases ht : s.told with
    | true =>
      have hr : s.rest (some wait) = s := State.sleep_of_told ht wait
      rw [hr, ht] at h
      contradiction
    | false =>
      have hr : s.rest (some wait) = _ := State.sleep_of_not_told ht wait
      have hn : s.stopBy (s.clock + min wait longestWait) = none := by
        rw [hr] at h
        simpa [ht] using h
      rw [hr]
      simp [hn]

/-- The exchanges so far were begun when they were due, and a loop that is not told to stop goes on
when the next one is. -/
structure Punctual (i : Intervals) (opened : Nat) (s : State (Watched σ)) : Prop where
  onTime : OnTime i opened s.partners.seen
  clock : s.told = false → s.clock = due i opened s.partners.seen

/-- What a turn adds to the record, and when the loop goes on. -/
theorem Punctual.turn_record {p : Partners σ} {i : Intervals} {opened : Nat}
    {s : State (Watched σ)} (h : Punctual i opened s) (going : s.mode ≠ .stopped)
    (free : s.told = false) :
    OnTime i opened (s.turn p.watched i).partners.seen ∧ ∃ ys y,
      (s.turn p.watched i).partners.seen = s.partners.seen ++ (ys ++ [y]) ∧
      (∀ z ∈ ys, z.pause i = 0) ∧
      ((s.turn p.watched i).told = false →
        (s.turn p.watched i).clock = y.ended + min (y.pause i) longestWait) := by
  obtain ⟨t, wait, he, hturn⟩ := turn_exit p.watched i going
  obtain ⟨ht, ys, y, hseen, hended, hpause, hys⟩ := he.onTime h.onTime (h.clock free)
  rw [hturn, (t.rest_fields wait).2.2.2]
  refine ⟨ht, ys, y, hseen, hys, ?_⟩
  intro hfree
  rw [State.rest_clock hfree, hended, hpause]

theorem Visits.punctual {p : Partners σ} {i : Intervals} {clock : Nat} {before : Bool}
    {wait : Option Nat} {w : σ} {s : State (Watched σ)}
    (h : Visits p.watched i ((State.opening clock before wait w).watch []) s) :
    Punctual i clock s := by
  induction h with
  | start =>
    refine ⟨?_, fun _ => ?_⟩
    · simpa using OnTime.nil i clock
    · simp
  | turn _ going free ih =>
    obtain ⟨hon, ys, y, hseen, -, hclock⟩ := ih.turn_record going free
    refine ⟨hon, fun hfree => ?_⟩
    rw [hclock hfree, hseen, ← List.append_assoc, due_snoc]
  | @finish s _ _ told ih =>
    refine ⟨by simpa using ih.onTime, fun hfree => ?_⟩
    have hstill : s.told = false := by simpa using hfree
    rw [told] at hstill
    contradiction

/-- The pause after a cycle, by what came of it. -/
theorem CycleOf.pause_eq {m : Mode} {ys : List Exchange} {y : Exchange}
    (h : CycleOf m ((ys ++ [y]).map Exchange.deed)) (i : Intervals) :
    ((∃ z ∈ ys ++ [y], z.failed = true) → y.pause i = i.error) ∧
    (modeAfter m (ys ++ [y]) ≠ m → y.pause i = 0) ∧
    ((∀ z ∈ ys ++ [y], z.failed = false) → modeAfter m (ys ++ [y]) = m →
      ∃ d, y.directive? = some d ∧ (m = .pinging → y.pause i = d.hint.getD i.ping) ∧
        (m = .sending → y.pause i = i.post)) := by
  generalize hd : (ys ++ [y]).map Exchange.deed = ds at h
  cases h with
  | ping e outcome =>
    obtain ⟨rfl, hy⟩ : ys = [] ∧ y.deed = .ping e outcome := by
      simpa [List.append_eq_singleton_iff] using hd
    cases outcome with
    | error message => simp [Exchange.failed, Exchange.pause, Exchange.directive?, hy]
    | ok d =>
      cases ha : d.isActive <;>
        simp [Exchange.failed, Exchange.pause, Exchange.directive?, Directive.mode, hy, ha]
  | unprepared e message =>
    obtain ⟨rfl, hy⟩ : ys = [] ∧ y.deed = .prepare e (.error message) := by
      simpa [List.append_eq_singleton_iff] using hd
    simp [Exchange.failed, Exchange.pause, Exchange.directive?, hy]
  | sent e outcome =>
    obtain ⟨x, rfl, hx, hy⟩ :
        ∃ x, ys = [x] ∧ x.deed = .prepare e (.ok ()) ∧ y.deed = .send outcome := by
      obtain ⟨x, xs, hxs, hx, hd⟩ := List.map_eq_cons_iff.1 hd
      obtain ⟨z, rfl, hz⟩ := List.map_eq_singleton_iff.1 hd
      have hparts : ys ++ [y] = [x] ++ [z] := hxs
      obtain ⟨rfl, hlast⟩ := List.append_inj' hparts rfl
      obtain rfl : y = z := by simpa using hlast
      exact ⟨x, rfl, hx, hz⟩
    cases outcome with
    | error message => simp [Exchange.failed, Exchange.pause, Exchange.directive?, hx, hy]
    | ok d =>
      cases ha : d.isActive <;>
        simp [Exchange.failed, Exchange.pause, Exchange.directive?, Directive.mode, hx, hy, ha]

namespace Partners

/-- The same partners, without hints but those of idle pings. -/
def muted (p : Partners σ) : Partners σ where
  ping now endpoint w :=
    let (r, after) := p.ping now endpoint w
    ({ r with outcome := r.outcome.map fun d => if d.isActive then d.mute else d }, after)
  prepare := p.prepare
  send := p.send
  directive w := (p.directive w).mute

end Partners

namespace State

theorem receive_mute (s : State σ) (d : Directive) : s.receive d.mute = s.receive d := rfl

theorem pingCycle_muted (p : Partners σ) (i : Intervals) (s : State σ) :
    s.pingCycle p.muted i = s.pingCycle p i := by
  have hp : s.pinged p.muted = s.pinged p := rfl
  have hr : (s.pingReply p.muted).outcome =
      (s.pingReply p).outcome.map fun d => if d.isActive then d.mute else d := rfl
  rw [pingCycle_eq, pingCycle_eq, hp, hr]
  cases (s.pingReply p).outcome with
  | error e => rfl
  | ok d =>
    cases ha : d.isActive with
    | true =>
      have hm : d.mute.isActive = true := ha
      simp [Except.map, ha, hm, receive_mute]
    | false => simp [Except.map, ha]

theorem turn_muted (p : Partners σ) (i : Intervals) (s : State σ) :
    s.turn p.muted i = s.turn p i := by
  have hc : s.cycle p.muted i = s.cycle p i := by
    unfold cycle
    cases s.mode with
    | pinging => exact s.pingCycle_muted p i
    | sending => rfl
    | stopped => rfl
  rw [turn_eq, turn_eq, hc]

end State

theorem Visits.muted {p : Partners σ} {i : Intervals} {s₀ s : State σ} (h : Visits p i s₀ s) :
    Visits p.muted i s₀ s := by
  induction h with
  | start => exact .start
  | @turn s _ going free ih =>
    rw [← s.turn_muted p i]
    exact .turn ih going free
  | finish _ going told ih => exact .finish ih going told

/-- Each exchange of a run is begun exactly when it is due: when the one before it is over and its
pause has passed, which is cut to the longest time that a timer lasts. The pause after a cycle is
the error interval if anything in it failed, nothing if it changed the mode, and else the hint of
the ping or the interval of the mode. Without hints but those of idle pings, the run is the same. -/
theorem goes_on_when_due {p : Partners σ} {i : Intervals} {clock : Nat} {before : Bool}
    {wait : Option Nat} {w : σ} {xs : List Exchange} {s : State σ}
    (h : Runs p i (State.opening clock before wait w) xs s) :
    (∀ pre x post, xs = pre ++ x :: post → x.begun = due i clock pre) ∧
    (s.mode ≠ .stopped → s.told = false → s.clock = due i clock xs ∧
      ∃ ys y, Runs p i (State.opening clock before wait w) (xs ++ (ys ++ [y])) (s.turn p i) ∧
        CycleOf s.mode ((ys ++ [y]).map Exchange.deed) ∧
        (∀ z ∈ ys, z.pause i = 0) ∧
        ((s.turn p i).told = false →
          (s.turn p i).clock = y.ended + min (y.pause i) longestWait) ∧
        ((∃ z ∈ ys ++ [y], z.failed = true) → y.pause i = i.error) ∧
        ((s.turn p i).mode ≠ s.mode → y.pause i = 0) ∧
        ((∀ z ∈ ys ++ [y], z.failed = false) → (s.turn p i).mode = s.mode →
          ∃ d, y.directive? = some d ∧ (s.mode = .pinging → y.pause i = d.hint.getD i.ping) ∧
            (s.mode = .sending → y.pause i = i.post))) ∧
    Visits p.muted i (State.opening clock before wait w) s := by
  have hp : Punctual i clock (s.watch xs) := Visits.punctual h
  refine ⟨hp.onTime, ?_, h.visits.muted⟩
  intro going free
  refine ⟨hp.clock free, ?_⟩
  obtain ⟨-, ys, y, hseen, hys, hclock⟩ := hp.turn_record (p := p) going free
  obtain ⟨zs, hzs, hcycle, hmode, -⟩ := turn_cycle (s := s.watch xs) p i going
  obtain rfl : ys ++ [y] = zs := List.append_cancel_left (hseen.symm.trans hzs)
  rw [State.turn_watch] at hclock hmode
  have hturned : (s.turn p i).mode = modeAfter s.mode (ys ++ [y]) := hmode
  obtain ⟨herror, hchange, hsame⟩ := hcycle.pause_eq i
  refine ⟨ys, y, h.turn going free hseen, hcycle, hys, hclock, herror, ?_, ?_⟩
  · rw [hturned]
    exact hchange
  · rw [hturned]
    exact hsame

/-- After a failed send, the next cycle begins when the error interval is over. -/
theorem goes_on_when_due_of_failed_send :
    let active : Directive := ⟨.active, none, some 7⟩
    let cast : Cast := ⟨.always active, ⟨[], ⟨5, .ok ()⟩⟩,
      ⟨[⟨2, .error "refused"⟩], ⟨0, .ok none⟩⟩, .idle, none⟩
    let i : Intervals := ⟨10, 20, 30⟩
    let s₀ := State.opening 0 false none cast
    let s := (((s₀.start i).turn Cast.partners i).turn Cast.partners i).turn Cast.partners i
    let xs : List Exchange := [⟨0, 0, .ping none (.ok active)⟩, ⟨0, 5, .prepare none (.ok ())⟩,
      ⟨5, 7, .send (.error "refused")⟩]
    let y : Exchange := ⟨37, 42, .prepare none (.ok ())⟩
    let z : Exchange := ⟨42, 42, .send (.ok .idle)⟩
    Runs Cast.partners i s₀ (xs ++ [y, z]) s ∧ y.begun = due i 0 xs ∧ due i 0 xs = 37 := by
  intro active cast i s₀ s xs y z
  have hr : Runs Cast.partners i s₀ (xs ++ [y, z]) s :=
    ((Runs.start.turn (by decide) rfl rfl).turn (by decide) rfl rfl).turn (by decide) rfl rfl
  exact ⟨hr, (goes_on_when_due hr).1 xs y [z] rfl, rfl⟩

/-- Intervals that are longer than any timer lasts are not kept. -/
theorem resumes_before_interval :
    let cast : Cast := ⟨.always .idle, .always (), .always none, .idle, some (.ping, 3)⟩
    let i : Intervals := ⟨946080000001, 10, 10⟩
    let s₀ := State.opening 0 false none cast
    let s := (s₀.start i).turn Cast.partners i
    let x : Exchange := ⟨0, 0, .ping none (.ok .idle)⟩
    let y := s.pingExchange Cast.partners
    i.check = .ok () ∧ Runs Cast.partners i s₀ [x, y] (s.turn Cast.partners i) ∧
      x.pause i = i.ping ∧ y.begun < x.ended + x.pause i := by
  intro cast i s₀ s x y
  have hx : Runs Cast.partners i s₀ [x] s := Runs.start.turn (by decide) rfl rfl
  have hy : Runs Cast.partners i s₀ [x, y] (s.turn Cast.partners i) := hx.turn (by decide) rfl rfl
  have hdue : y.begun = due i 0 [x] := (Visits.punctual hx).clock rfl
  refine ⟨rfl, hy, rfl, ?_⟩
  rw [hdue]
  decide

end Loop

end LiveTelemetry
