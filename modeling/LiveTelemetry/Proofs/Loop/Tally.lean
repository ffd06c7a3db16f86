import Mathlib.Data.List.Induction
import LiveTelemetry.Proofs.Loop.Clock
import LiveTelemetry.Proofs.Loop.Order
/-!
The counters of a loop. Main statements: they count the exchanges of a run, each once and by what
came of it, and so they account for the calls that were made.
-/
namespace LiveTelemetry.Loop

namespace Call

def isPing : Call → Bool
  | ping _ => true
  | _ => false

def isPrepare : Call → Bool
  | prepare _ => true
  | _ => false

def isSend (c : Call) : Bool := c == .send

def isDirective (c : Call) : Bool := c == .directive

end Call

namespace Exchange

/-- Whether an exchange is a send that has the loop go back to pinging. -/
def deactivates (x : Exchange) : Bool :=
  match x.deed with
  | .send (.ok d) => !d.isActive
  | _ => false

/-- The counters after one more exchange. -/
def count (t : CycleTally) (x : Exchange) : CycleTally :=
  match x.deed with
  | .ping _ (.ok d) =>
    { t with
      pings := t.pings + 1
      activations := t.activations + if d.isActive then 1 else 0
      redirects := t.redirects + if d.redirect.isSome then 1 else 0 }
  | .prepare _ (.ok ()) => t
  | .send (.ok d) =>
    { t with
      posts := t.posts + 1
      deactivations := t.deactivations + if d.isActive then 0 else 1
      redirects := t.redirects + if d.redirect.isSome then 1 else 0 }
  | _ => { t with failures := t.failures + 1 }

/-- What an exchange adds to each counter. -/
theorem count_eq (t : CycleTally) (x : Exchange) :
    x.count t =
      { pings := t.pings + if x.call.2.isPing && !x.failed then 1 else 0
        posts := t.posts + if x.call.2.isSend && !x.failed then 1 else 0
        failures := t.failures + if x.failed then 1 else 0
        activations := t.activations + if x.activates then 1 else 0
        deactivations := t.deactivations + if x.deactivates then 1 else 0
        redirects := t.redirects +
          if x.directive?.any (fun d => d.redirect.isSome) then 1 else 0 } := by
  obtain ⟨begun, ended, deed⟩ := x
  cases deed with
  | ping e outcome => cases outcome <;> rfl
  | prepare e outcome => cases outcome <;> rfl
  | send outcome =>
    cases outcome with
    | error message => rfl
    | ok d =>
      obtain ⟨status, redirect, hint⟩ := d
      cases status <;> rfl

end Exchange

/-- The counters after a run's exchanges. -/
def tallyOf (xs : List Exchange) : CycleTally := xs.foldl Exchange.count CycleTally.zero

@[simp] theorem tallyOf_append (xs ys : List Exchange) :
    tallyOf (xs ++ ys) = ys.foldl Exchange.count (tallyOf xs) := by
  simp [tallyOf]

/-- Each redirect that was received was counted. -/
theorem redirects_tallyOf (xs : List Exchange) :
    (tallyOf xs).redirects =
      (xs.filterMap Exchange.directive?).countP fun d => d.redirect.isSome := by
  induction xs using List.reverseRecOn with
  | nil => rfl
  | append_singleton xs x ih =>
    rw [tallyOf_append, List.filterMap_append, List.countP_append, ← ih]
    obtain ⟨begun, ended, deed⟩ := x
    cases deed with
    | ping e outcome => cases outcome <;> simp [Exchange.count, Exchange.directive?]
    | prepare e outcome => cases outcome <;> simp [Exchange.count, Exchange.directive?]
    | send outcome => cases outcome <;> simp [Exchange.count, Exchange.directive?]

namespace State

theorem receive_tally (s : State σ) (d : Directive) :
    (s.receive d).tally = { s.tally with
      redirects := s.tally.redirects + if d.redirect.isSome then 1 else 0 } := by
  cases hd : d.redirect <;> simp [receive, Override.apply, hd]

theorem observed_tally (p : Partners σ) (s : State σ) :
    (s.observed p).tally = { s.tally with
      posts := s.tally.posts + 1
      redirects := s.tally.redirects +
        if (p.directive s.partners).redirect.isSome then 1 else 0 } := by
  rw [observed, receive_tally]
  rfl

end State

/-- A cycle counts the exchanges that it adds to the record. -/
theorem Exit.tally {p : Partners σ} {i : Intervals} {s t : State (Watched σ)} {wait : Option Nat}
    (h : Exit p.watched i s t wait) (hs : s.tally = tallyOf s.partners.seen) :
    t.tally = tallyOf t.partners.seen := by
  cases h with
  | pingFailed mode reply =>
    simp [hs, Exchange.count, State.pingExchange, reply]
  | activated mode reply active =>
    simp [hs, State.receive_tally, Exchange.count, State.pingExchange, reply, active]
  | idle mode reply idle =>
    simp [hs, State.receive_tally, Exchange.count, State.pingExchange, reply, idle]
  | prepareFailed mode reply =>
    simp [hs, Exchange.count, State.prepareExchange, reply]
  | sendFailed mode ready reply =>
    simp [hs, Exchange.count, State.prepareExchange, State.sendExchange, ready, reply, Except.map]
  | posted mode ready reply active =>
    simp [hs, State.observed_tally, Exchange.count, State.prepareExchange, State.sendExchange,
      ready, reply, Except.map, active]
  | deactivated mode ready reply idle =>
    simp [hs, State.observed_tally, Exchange.count, State.prepareExchange, State.sendExchange,
      ready, reply, Except.map, idle]

theorem Visits.tally_eq {p : Partners σ} {i : Intervals} {clock : Nat} {before : Bool}
    {wait : Option Nat} {w : σ} {s : State (Watched σ)}
    (h : Visits p.watched i ((State.opening clock before wait w).watch []) s) :
    s.tally = tallyOf s.partners.seen := by
  induction h with
  | start => cases before <;> rfl
  | turn _ going _ ih =>
    obtain ⟨t, wait, he, hturn⟩ := turn_exit p.watched i going
    obtain ⟨-, -, ht, hp⟩ := t.rest_fields wait
    rw [hturn, ht, hp]
    exact he.tally ih
  | finish _ _ _ ih => simpa using ih

/-- How many of the calls are of a kind. -/
def State.made (s : State σ) (kind : Call → Bool) : Nat := s.calls.countP fun c => kind c.2

/-- How many exchanges of a kind went well. -/
def wentWell (kind : Call → Bool) (xs : List Exchange) : Nat :=
  xs.countP fun x => kind x.call.2 && !x.failed

/-- How many exchanges of a kind failed. -/
def wentWrong (kind : Call → Bool) (xs : List Exchange) : Nat :=
  xs.countP fun x => kind x.call.2 && x.failed

/-- A counter to which each exchange adds one or nothing counts those that add one. -/
theorem tallyOf_eq_countP {f : CycleTally → Nat} {q : Exchange → Bool} (zero : f .zero = 0)
    (step : ∀ t x, f (Exchange.count t x) = f t + if q x then 1 else 0) (xs : List Exchange) :
    f (tallyOf xs) = xs.countP q := by
  induction xs using List.reverseRecOn with
  | nil => exact zero
  | append_singleton xs x ih =>
    rw [tallyOf_append, List.foldl_cons, List.foldl_nil, step, ih, List.countP_append,
      List.countP_singleton]

theorem tallyOf_fields (xs : List Exchange) :
    (tallyOf xs).pings = wentWell Call.isPing xs ∧
    (tallyOf xs).posts = wentWell Call.isSend xs ∧
    (tallyOf xs).failures = xs.countP Exchange.failed ∧
    (tallyOf xs).activations = xs.countP Exchange.activates ∧
    (tallyOf xs).deactivations = xs.countP Exchange.deactivates := by
  refine ⟨?_, ?_, ?_, ?_, ?_⟩
  all_goals
    refine tallyOf_eq_countP rfl (fun t x => ?_) xs
    rw [Exchange.count_eq]

/-- The exchanges of a kind went well or failed. -/
theorem wentWell_add_wentWrong (kind : Call → Bool) (xs : List Exchange) :
    wentWell kind xs + wentWrong kind xs = xs.countP fun x => kind x.call.2 := by
  rw [List.countP_eq_countP_filter_add xs (fun x => kind x.call.2) Exchange.failed,
    List.countP_filter, List.countP_filter, Nat.add_comm]
  rfl

/-- Each failure is one of a ping, of a call to prepare or of a send. -/
theorem countP_failed (xs : List Exchange) :
    xs.countP Exchange.failed =
      wentWrong Call.isPing xs + wentWrong Call.isPrepare xs + wentWrong Call.isSend xs := by
  unfold wentWrong
  induction xs with
  | nil => rfl
  | cons x xs ih =>
    obtain ⟨begun, ended, deed⟩ := x
    simp only [List.countP_cons, ih]
    cases deed <;> simp [Exchange.call, Call.isPing, Call.isPrepare, Call.isSend] <;> omega

/-- The calls that a run waits for are those that begin its exchanges. -/
theorem countP_calls {kind : Call → Bool} (hk : kind .directive = false) (xs : List Exchange) :
    (xs.flatMap Exchange.calls).countP (fun c => kind c.2) =
      xs.countP fun x => kind x.call.2 := by
  induction xs with
  | nil => rfl
  | cons x xs ih =>
    rw [List.flatMap_cons, List.countP_append, ih, List.countP_cons]
    obtain ⟨begun, ended, deed⟩ := x
    cases deed with
    | ping e outcome => simp [Exchange.calls, List.countP_cons]; omega
    | prepare e outcome => simp [Exchange.calls, List.countP_cons]; omega
    | send outcome =>
      cases outcome with
      | error message => simp [Exchange.calls, List.countP_cons]; omega
      | ok d => simp [Exchange.calls, List.countP_cons, hk]; omega

/-- A directive is read once for each send that went well. -/
theorem countP_calls_directive (xs : List Exchange) :
    (xs.flatMap Exchange.calls).countP (fun c => c.2.isDirective) = wentWell Call.isSend xs := by
  unfold wentWell
  induction xs with
  | nil => rfl
  | cons x xs ih =>
    rw [List.flatMap_cons, List.countP_append, ih, List.countP_cons]
    obtain ⟨begun, ended, deed⟩ := x
    cases deed with
    | ping e outcome => simp [Exchange.calls, Exchange.call, Call.isDirective, Call.isSend]
    | prepare e outcome => simp [Exchange.calls, Exchange.call, Call.isDirective, Call.isSend]
    | send outcome =>
      cases outcome with
      | error message =>
        simp [Exchange.calls, Exchange.call, Exchange.failed, Call.isDirective, Call.isSend]
      | ok d =>
        simp [Exchange.calls, Exchange.call, Exchange.failed, Call.isDirective, Call.isSend]
        omega

/-- What a cycle of a mode adds is balanced: it turns to sending or back if it changes the mode, and
it sends if it is prepared. -/
theorem CycleOf.balance {m : Mode} {ys : List Exchange} (h : CycleOf m (ys.map Exchange.deed)) :
    ys.countP Exchange.activates + (if m = .sending then 1 else 0) =
      ys.countP Exchange.deactivates + (if modeAfter m ys = .sending then 1 else 0) ∧
    ys.countP (fun x => x.call.2.isPrepare) =
      ys.countP (fun x => x.call.2.isSend) + wentWrong Call.isPrepare ys := by
  generalize hd : ys.map Exchange.deed = ds at h
  cases h with
  | ping e outcome =>
    obtain ⟨x, rfl, hx⟩ := List.map_eq_singleton_iff.1 hd
    cases outcome with
    | error message =>
      simp [wentWrong, Exchange.activates, Exchange.deactivates, Exchange.call,
        Exchange.directive?, Call.isPrepare, Call.isSend, hx]
    | ok d =>
      cases ha : d.isActive <;>
        simp [wentWrong, Exchange.activates, Exchange.deactivates, Exchange.call,
          Exchange.directive?, Directive.mode, Call.isPrepare, Call.isSend, hx, ha]
  | unprepared e message =>
    obtain ⟨x, rfl, hx⟩ := List.map_eq_singleton_iff.1 hd
    simp [wentWrong, Exchange.activates, Exchange.deactivates, Exchange.call, Exchange.failed,
      Exchange.directive?, Call.isPrepare, Call.isSend, hx]
  | sent e outcome =>
    obtain ⟨x, xs, rfl, hx, hd⟩ := List.map_eq_cons_iff.1 hd
    obtain ⟨y, rfl, hy⟩ := List.map_eq_singleton_iff.1 hd
    cases outcome with
    | error message =>
      simp [wentWrong, Exchange.activates, Exchange.deactivates, Exchange.call, Exchange.failed,
        Exchange.directive?, Call.isPrepare, Call.isSend, hx, hy]
    | ok d =>
      cases ha : d.isActive <;>
        simp [wentWrong, Exchange.activates, Exchange.deactivates, Exchange.call, Exchange.failed,
          Exchange.directive?, Directive.mode, Call.isPrepare, Call.isSend, hx, hy, ha]

theorem Orderly.balance {xs : List Exchange} (h : Orderly xs) :
    xs.countP Exchange.activates =
      xs.countP Exchange.deactivates + (if modeAfter .pinging xs = .sending then 1 else 0) ∧
    xs.countP (fun x => x.call.2.isPrepare) =
      xs.countP (fun x => x.call.2.isSend) + wentWrong Call.isPrepare xs := by
  induction h with
  | nil => exact ⟨rfl, rfl⟩
  | @cycle xs ys before next ih =>
    obtain ⟨hmode, hprepared⟩ := next.balance
    unfold wentWrong at *
    simp only [List.countP_append, modeAfter_append]
    omega

/-- How the counters of a run account for its calls, given its exchanges and the mode that it has
come to. -/
structure Accounted (xs : List Exchange) (m : Mode) (s : State σ) : Prop where
  calls : s.calls = xs.flatMap Exchange.calls
  pings : s.made Call.isPing = s.tally.pings + wentWrong Call.isPing xs
  prepares : s.made Call.isPrepare = s.made Call.isSend + wentWrong Call.isPrepare xs
  posts : s.tally.posts = wentWell Call.isSend xs
  reads : s.tally.posts = s.made Call.isDirective
  failures : s.tally.failures =
    wentWrong Call.isPing xs + wentWrong Call.isPrepare xs + wentWrong Call.isSend xs
  redirects : s.tally.redirects =
    (xs.filterMap Exchange.directive?).countP fun d => d.redirect.isSome
  activations : s.tally.activations = xs.countP Exchange.activates
  deactivations : s.tally.deactivations = xs.countP Exchange.deactivates
  balance : s.tally.activations = s.tally.deactivations + if m = .sending then 1 else 0

theorem Accounted.of_tally {xs : List Exchange} {s : State σ}
    (hc : s.calls = xs.flatMap Exchange.calls) (ht : s.tally = tallyOf xs) (ho : Orderly xs) :
    Accounted xs (modeAfter .pinging xs) s := by
  obtain ⟨hpings, hposts, hfailures, hactivations, hdeactivations⟩ := tallyOf_fields xs
  obtain ⟨hmode, hprepared⟩ := ho.balance
  refine ⟨hc, ?_, ?_, ?_, ?_, ?_, ?_, ?_, ?_, ?_⟩
  · rw [State.made, hc, countP_calls rfl, ← wentWell_add_wentWrong, ht, hpings]
  · rw [State.made, State.made, hc, countP_calls rfl, countP_calls rfl, hprepared]
  · rw [ht, hposts]
  · rw [ht, hposts, State.made, hc, countP_calls_directive]
  · rw [ht, hfailures, countP_failed]
  · rw [ht, redirects_tallyOf]
  · rw [ht, hactivations]
  · rw [ht, hdeactivations]
  · rw [ht, hactivations, hdeactivations, hmode]

/-- The counters with which a run returns account for its calls, whenever it was told to stop: by
the exchanges that it had, and by the mode in which it was stopped. -/
theorem run_accounted {p : Partners σ} {i : Intervals} {clock : Nat} {before : Bool}
    {wait : Option Nat} {w : σ} {turns : Nat} {s : State σ}
    (h : (State.opening clock before wait w).run p i turns = some s) :
    ∃ xs t, Runs p i (State.opening clock before wait w) xs t ∧ t.mode ≠ .stopped ∧
      t.told = true ∧ s = t.finish ∧ Accounted xs t.mode s := by
  obtain ⟨xs, t, hr, going, told, rfl⟩ := exists_runs_of_run (by simp) h
  have ho : InOrder (t.watch xs) := Visits.inOrder hr
  have htally : t.tally = tallyOf xs := Visits.tally_eq hr
  have hmode : t.mode = modeAfter .pinging xs := ho.mode going
  refine ⟨xs, t, hr, going, told, rfl, ?_⟩
  rw [hmode]
  exact .of_tally (by simpa using ho.calls) (by simpa using htally) ho.cycles

/-- A run that is stopped while sending, after a ping and a send that failed. -/
theorem run_accounted_of_failed_send :
    let active : Directive := ⟨.active, some ⟨"http://b", none⟩, none⟩
    let cast : Cast := ⟨⟨[⟨0, .error "refused"⟩], ⟨0, .ok active⟩⟩, .always (),
      ⟨[], ⟨5, .error "refused"⟩⟩, .idle, some (.send, 1)⟩
    let i : Intervals := ⟨10, 20, 30⟩
    let s₀ := State.opening 0 false none cast
    let s := ((((s₀.start i).turn Cast.partners i).turn Cast.partners i).turn Cast.partners
      i).finish
    (∃ n, s₀.run Cast.partners i n = some s) ∧ s.tally = ⟨1, 0, 2, 1, 0, 1⟩ ∧
    ∃ xs, Accounted xs .sending s := by
  intro active cast i s₀ s
  have hv : Visits Cast.partners i s₀ s :=
    (((Visits.start.turn (by decide) rfl).turn (by decide) rfl).turn (by decide) rfl).finish
      (by decide) rfl
  obtain ⟨n, hn⟩ := (run_eq_some_iff (by decide)).2 ⟨hv, rfl⟩
  have htally : s.tally = ⟨1, 0, 2, 1, 0, 1⟩ := rfl
  obtain ⟨xs, t, -, going, -, -, ha⟩ := run_accounted hn
  have hmode : t.mode = .sending := by
    have hb := ha.balance
    rw [htally] at hb
    by_contra hne
    simp [hne] at hb
  exact ⟨⟨n, hn⟩, htally, xs, hmode ▸ ha⟩

end LiveTelemetry.Loop
