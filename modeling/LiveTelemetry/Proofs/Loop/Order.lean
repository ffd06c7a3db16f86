import Mathlib.Data.List.Induction
import LiveTelemetry.Loop.Script
import LiveTelemetry.Proofs.Loop.Watch
/-!
The order in which a loop calls its partners. Main statement: the mode of a run follows the last
directive that was observed, and the calls keep to the mode.
-/
namespace LiveTelemetry

/-- The mode that a directive asks for. -/
def Directive.mode (d : Directive) : Mode := if d.isActive then .sending else .pinging

namespace Loop

namespace Exchange

def failed (x : Exchange) : Bool :=
  match x.deed with
  | .ping _ (.error _) => true
  | .prepare _ (.error _) => true
  | .send (.error _) => true
  | _ => false

/-- Whether telemetry is prepared or sent. -/
def isTelemetry (x : Exchange) : Bool :=
  match x.deed with
  | .ping _ _ => false
  | _ => true

/-- The calls that make an exchange. The directive is read once, right after a send that went
well. -/
def calls (x : Exchange) : List (Nat × Call) :=
  x.call :: match x.deed with
    | .send (.ok _) => [(x.ended, .directive)]
    | _ => []

end Exchange

namespace State

@[simp] theorem calls_pingExchange (p : Partners σ) (s : State σ) :
    (s.pingExchange p).calls = [(s.clock, .ping s.endpoint.1)] :=
  rfl

@[simp] theorem calls_prepareExchange (p : Partners σ) (s : State σ) :
    (s.prepareExchange p).calls = [(s.clock, .prepare s.endpoint.1)] :=
  rfl

@[simp] theorem calls_sendExchange (p : Partners σ) (s : State σ) :
    (s.sendExchange p).calls = (s.clock, .send) ::
      match (s.sendReply p).outcome with
      | .ok _ => [((s.sent p).clock, .directive)]
      | .error _ => [] := by
  unfold sendExchange Exchange.calls
  cases (s.sendReply p).outcome <;> simp [Exchange.call, Except.map]

end State

/-- The mode after exchanges that begin in `m`: the last directive observed decides. -/
def modeAfter (m : Mode) (xs : List Exchange) : Mode :=
  ((xs.filterMap Exchange.directive?).getLast?.map Directive.mode).getD m

@[simp] theorem modeAfter_nil (m : Mode) : modeAfter m [] = m := rfl

@[simp] theorem modeAfter_append (m : Mode) (xs ys : List Exchange) :
    modeAfter m (xs ++ ys) = modeAfter (modeAfter m xs) ys := by
  simp only [modeAfter, List.filterMap_append, List.getLast?_append]
  cases (ys.filterMap Exchange.directive?).getLast? <;> simp

@[simp] theorem modeAfter_cons (m : Mode) (x : Exchange) (xs : List Exchange) :
    modeAfter m (x :: xs) = modeAfter ((x.directive?.map Directive.mode).getD m) xs := by
  rw [← List.singleton_append, modeAfter_append]
  cases h : x.directive? <;> simp [modeAfter, h]

theorem modeAfter_pinging (xs : List Exchange) :
    modeAfter .pinging xs = .pinging ∨ modeAfter .pinging xs = .sending := by
  unfold modeAfter
  cases (xs.filterMap Exchange.directive?).getLast? with
  | none => exact .inl rfl
  | some d =>
    cases hd : d.isActive with
    | true => exact .inr (by simp [Directive.mode, hd])
    | false => exact .inl (by simp [Directive.mode, hd])

/-- Sending begins with an active directive that is observed while pinging. -/
theorem exists_active {xs : List Exchange} (h : modeAfter .pinging xs = .sending) :
    ∃ pre x post d, xs = pre ++ x :: post ∧ modeAfter .pinging pre = .pinging ∧
      x.directive? = some d ∧ d.isActive = true := by
  induction xs using List.reverseRecOn with
  | nil => exact absurd h (by decide)
  | append_singleton xs x ih =>
    rcases modeAfter_pinging xs with hp | hs
    · rw [modeAfter_append, hp, modeAfter_cons, modeAfter_nil] at h
      cases hx : x.directive? with
      | none => simp [hx] at h
      | some d =>
        cases hd : d.isActive with
        | true => exact ⟨xs, x, [], d, rfl, hp, hx, hd⟩
        | false => simp [hx, Directive.mode, hd] at h
    · obtain ⟨pre, y, post, d, rfl, hpre, hy, hd⟩ := ih hs
      exact ⟨pre, y, post ++ [x], d, by simp, hpre, hy, hd⟩

/-- What happens in one cycle of a mode. -/
inductive CycleOf : Mode → List Deed → Prop where
  | ping (endpoint : Option String) (outcome : Except String Directive) :
      CycleOf .pinging [.ping endpoint outcome]
  | unprepared (endpoint : Option String) (error : String) :
      CycleOf .sending [.prepare endpoint (.error error)]
  | sent (endpoint : Option String) (outcome : Except String Directive) :
      CycleOf .sending [.prepare endpoint (.ok ()), .send outcome]

/-- A cycle in which something fails leaves the mode as it is. -/
theorem CycleOf.modeAfter_of_failed {m : Mode} {ys : List Exchange}
    (h : CycleOf m (ys.map Exchange.deed)) (hf : ∃ y ∈ ys, y.failed = true) :
    modeAfter m ys = m := by
  obtain ⟨y, hy, hf⟩ := hf
  generalize hd : ys.map Exchange.deed = ds at h
  cases h with
  | ping e outcome =>
    obtain ⟨x, rfl, hx⟩ := List.map_eq_singleton_iff.1 hd
    obtain rfl := List.mem_singleton.1 hy
    cases outcome with
    | error message => simp [Exchange.directive?, hx]
    | ok d => simp [Exchange.failed, hx] at hf
  | unprepared e message =>
    obtain ⟨x, rfl, hx⟩ := List.map_eq_singleton_iff.1 hd
    simp [Exchange.directive?, hx]
  | sent e outcome =>
    obtain ⟨x, xs, rfl, hx, hd⟩ := List.map_eq_cons_iff.1 hd
    obtain ⟨x', rfl, hx'⟩ := List.map_eq_singleton_iff.1 hd
    cases outcome with
    | error message => simp [Exchange.directive?, hx, hx']
    | ok d =>
      rcases List.mem_cons.1 hy with rfl | hy
      · simp [Exchange.failed, hx] at hf
      · obtain rfl := List.mem_singleton.1 hy
        simp [Exchange.failed, hx'] at hf

/-- Exchanges in whole cycles, each of the mode that the directives before it ask for. -/
inductive Orderly : List Exchange → Prop where
  | nil : Orderly []
  | cycle {xs ys : List Exchange} (before : Orderly xs)
      (next : CycleOf (modeAfter .pinging xs) (ys.map Exchange.deed)) : Orderly (xs ++ ys)

/-- Whether an exchange may come after others: a ping while pinging, a call to prepare while
sending, and a send directly after a call to prepare that went well. -/
def Due (pre : List Exchange) (x : Exchange) : Prop :=
  match x.deed with
  | .ping _ _ => modeAfter .pinging pre = .pinging
  | .prepare _ _ => modeAfter .pinging pre = .sending
  | .send _ => modeAfter .pinging pre = .sending ∧ Prepared pre

theorem CycleOf.due {xs ys : List Exchange}
    (h : CycleOf (modeAfter .pinging xs) (ys.map Exchange.deed)) {pre post : List Exchange}
    {x : Exchange} (hy : ys = pre ++ x :: post) : Due (xs ++ pre) x := by
  generalize hm : modeAfter .pinging xs = m at h
  generalize hd : ys.map Exchange.deed = ds at h
  subst hy
  cases h with
  | ping e outcome =>
    cases pre with
    | nil =>
      obtain ⟨hx, -⟩ : x.deed = .ping e outcome ∧ post = [] := by simpa using hd
      simpa [Due, hx] using hm
    | cons y pre => simp at hd
  | unprepared e message =>
    cases pre with
    | nil =>
      obtain ⟨hx, -⟩ : x.deed = .prepare e (.error message) ∧ post = [] := by simpa using hd
      simpa [Due, hx] using hm
    | cons y pre => simp at hd
  | sent e outcome =>
    cases pre with
    | nil =>
      obtain ⟨hx, -⟩ : x.deed = .prepare e (.ok ()) ∧ post.map Exchange.deed = [.send outcome] := by
        simpa using hd
      simpa [Due, hx] using hm
    | cons y pre =>
      cases pre with
      | nil =>
        obtain ⟨hy, hx, -⟩ :
            y.deed = .prepare e (.ok ()) ∧ x.deed = .send outcome ∧ post = [] := by
          simpa using hd
        have hmode : modeAfter .pinging (xs ++ [y]) = .sending := by
          simp [hm, Exchange.directive?, hy]
        simp only [Due, hx]
        exact ⟨hmode, xs, y, e, rfl, hy⟩
      | cons z pre => simp at hd

theorem Orderly.due {xs : List Exchange} (h : Orderly xs) {pre post : List Exchange}
    {x : Exchange} (hx : xs = pre ++ x :: post) : Due pre x := by
  induction h generalizing post with
  | nil => simp at hx
  | @cycle xs ys before next ih =>
    rcases List.append_eq_append_iff.1 hx with ⟨ys', rfl, hy⟩ | ⟨xs', hxs, hy⟩
    · exact next.due hy
    · cases xs' with
      | nil =>
        obtain rfl : xs = pre := by simpa using hxs
        have hy' : ys = [] ++ x :: post := by simpa using hy.symm
        simpa using next.due hy'
      | cons z xs' =>
        obtain ⟨rfl, -⟩ : x = z ∧ post = xs' ++ ys := by simpa using hy
        exact ih hxs

/-- After an idle directive, telemetry has to wait for an active ping. -/
theorem Orderly.quiet {xs : List Exchange} (h : Orderly xs) {pre mid post : List Exchange}
    {x y : Exchange} (hxs : xs = pre ++ x :: (mid ++ y :: post)) {d : Directive}
    (hd : x.directive? = some d) (hi : d.isActive = false) (hy : y.isTelemetry = true) :
    ∃ z ∈ mid, ∃ e d', z.deed = .ping e (.ok d') ∧ d'.isActive = true := by
  have hpinging : modeAfter .pinging (pre ++ [x]) = .pinging := by
    simp [hd, Directive.mode, hi]
  have hsending : modeAfter .pinging mid = .sending := by
    have hsplit : xs = (pre ++ [x] ++ mid) ++ y :: post := by simpa using hxs
    have hdue : Due (pre ++ [x] ++ mid) y := h.due hsplit
    rw [← hpinging, ← modeAfter_append]
    unfold Due at hdue
    unfold Exchange.isTelemetry at hy
    split at hdue
    · rename_i hdeed
      simp [hdeed] at hy
    · exact hdue
    · exact hdue.1
  obtain ⟨before, z, after, d', rfl, hbefore, hz, hd'⟩ := exists_active hsending
  refine ⟨z, by simp, ?_⟩
  have hsplit : xs = (pre ++ [x] ++ before) ++ z :: (after ++ y :: post) := by simpa using hxs
  have hdue : Due (pre ++ [x] ++ before) z := h.due hsplit
  have hmode : modeAfter .pinging (pre ++ [x] ++ before) = .pinging := by
    rw [modeAfter_append, hpinging, hbefore]
  unfold Exchange.directive? at hz
  split at hz
  · rename_i e d'' hdeed
    obtain rfl := Option.some.inj hz
    exact ⟨e, d'', hdeed, hd'⟩
  · -- A send would not be due, as the mode is still pinging.
    rename_i d'' hdeed
    simp only [Due, hdeed] at hdue
    rw [hmode] at hdue
    exact absurd hdue.1 (by decide)
  · contradiction

/-- What a turn adds to the record of the partners and to the history: a cycle of the loop's mode,
and its calls. -/
theorem turn_cycle (p : Partners σ) (i : Intervals) {s : State (Watched σ)}
    (h : s.mode ≠ .stopped) :
    ∃ ys, (s.turn p.watched i).partners.seen = s.partners.seen ++ ys ∧
      CycleOf s.mode (ys.map Exchange.deed) ∧
      (s.turn p.watched i).mode = modeAfter s.mode ys ∧
      (s.turn p.watched i).calls = s.calls ++ ys.flatMap Exchange.calls := by
  obtain ⟨t, wait, he, ht⟩ := turn_exit p.watched i h
  obtain ⟨hm, -, -, hp⟩ := t.rest_fields wait
  rw [ht, hm, hp, (t.rest_history wait).1]
  have hping (mode : s.mode = .pinging) :
      CycleOf s.mode ([s.pingExchange p.watched].map Exchange.deed) := by
    rw [mode]
    exact CycleOf.ping _ _
  have hsent (mode : s.mode = .sending) (prepared : (s.prepareReply p.watched).outcome = .ok ()) :
      CycleOf s.mode ([s.prepareExchange p.watched,
        (s.prepared p.watched).sendExchange p.watched].map Exchange.deed) := by
    rw [mode]
    simpa [State.prepareExchange, State.sendExchange, prepared] using CycleOf.sent _ _
  cases he with
  | @pingFailed e mode reply =>
    refine ⟨[s.pingExchange p.watched], by simp, hping mode, ?_, by simp⟩
    simp [reply, Except.toOption]
  | @activated d mode reply active =>
    refine ⟨[s.pingExchange p.watched], by simp, hping mode, ?_, by simp⟩
    simp [reply, Except.toOption, Directive.mode, active]
  | @idle d mode reply idle =>
    refine ⟨[s.pingExchange p.watched], by simp, hping mode, ?_, by simp⟩
    simp [reply, Except.toOption, Directive.mode, idle, mode]
  | @prepareFailed e mode reply =>
    refine ⟨[s.prepareExchange p.watched], by simp, ?_, by simp, by simp⟩
    simpa [mode, State.prepareExchange, reply] using CycleOf.unprepared _ e
  | @sendFailed e mode prepared reply =>
    refine ⟨_, ?_, hsent mode prepared, ?_, ?_⟩
    · simp
    · simp [reply, Except.toOption]
    · simp [reply]
  | posted mode prepared reply active =>
    refine ⟨_, ?_, hsent mode prepared, ?_, ?_⟩
    · simp
    · simp [reply, Except.toOption, Directive.mode, active, mode]
    · simp [reply]
  | deactivated mode prepared reply idle =>
    refine ⟨_, ?_, hsent mode prepared, ?_, ?_⟩
    · simp
    · simp [reply, Except.toOption, Directive.mode, idle]
    · simp [reply]

/-- The mode follows the directives, the exchanges make whole cycles, and there are no calls but
those of the exchanges. -/
structure InOrder (s : State (Watched σ)) : Prop where
  mode : s.mode ≠ .stopped → s.mode = modeAfter .pinging s.partners.seen
  cycles : Orderly s.partners.seen
  calls : s.calls = s.partners.seen.flatMap Exchange.calls

theorem InOrder.turn {p : Partners σ} {i : Intervals} {s : State (Watched σ)} (h : InOrder s)
    (going : s.mode ≠ .stopped) : InOrder (s.turn p.watched i) := by
  obtain ⟨ys, hseen, hcycle, hmode, hcalls⟩ := turn_cycle p i going
  rw [h.mode going] at hcycle hmode
  refine ⟨fun _ => ?_, ?_, ?_⟩
  · rw [hmode, hseen, modeAfter_append]
  · rw [hseen]
    exact h.cycles.cycle hcycle
  · rw [hcalls, hseen, h.calls, List.flatMap_append]

theorem Visits.inOrder {p : Partners σ} {i : Intervals} {clock : Nat} {before : Bool}
    {wait : Option Nat} {w : σ} {t : State (Watched σ)}
    (h : Visits p.watched i ((State.opening clock before wait w).watch []) t) : InOrder t := by
  induction h with
  | start =>
    refine ⟨fun _ => ?_, ?_, ?_⟩
    · simp
    · simpa using Orderly.nil
    · simp
  | turn _ going _ ih => exact ih.turn going
  | finish _ _ _ ih =>
    refine ⟨fun hm => absurd (by simp) hm, ?_, ?_⟩
    · simpa using ih.cycles
    · simpa using ih.calls

/-- In every run the mode follows the last directive that was observed, and the calls keep to it:
whole cycles of the mode, no cycle that fails changes the mode, and no telemetry between an idle
directive and the next active ping. -/
theorem run_in_order {p : Partners σ} {i : Intervals} {clock : Nat} {before : Bool}
    {wait : Option Nat} {w : σ} {xs : List Exchange} {s : State σ}
    (h : Runs p i (State.opening clock before wait w) xs s) :
    (s.mode ≠ .stopped → s.mode = modeAfter .pinging xs) ∧
    s.calls = xs.flatMap Exchange.calls ∧
    Orderly xs ∧
    (∀ pre x post, xs = pre ++ x :: post → Due pre x) ∧
    (s.mode ≠ .stopped → s.told = false → ∃ ys,
      Runs p i (State.opening clock before wait w) (xs ++ ys) (s.turn p i) ∧
      CycleOf s.mode (ys.map Exchange.deed) ∧
      ((∃ y ∈ ys, y.failed = true) → (s.turn p i).mode = s.mode)) ∧
    (∀ pre x mid y post d, xs = pre ++ x :: (mid ++ y :: post) → x.directive? = some d →
      d.isActive = false → y.isTelemetry = true →
      ∃ z ∈ mid, ∃ e d', z.deed = .ping e (.ok d') ∧ d'.isActive = true) := by
  have ho : InOrder (s.watch xs) := Visits.inOrder h
  refine ⟨ho.mode, by simpa using ho.calls, ho.cycles, ?_, ?_, ?_⟩
  · intro pre x post hx
    exact ho.cycles.due hx
  · intro going free
    obtain ⟨ys, hseen, hcycle, hmode, -⟩ := turn_cycle (s := s.watch xs) p i going
    rw [State.turn_watch] at hmode
    exact ⟨ys, h.turn going free hseen, hcycle,
      fun hf => hmode.trans (hcycle.modeAfter_of_failed hf)⟩
  · intro pre x mid y post d hxs hd hi hy
    exact ho.cycles.quiet hxs hd hi hy

/-- A run that turns to sending and fails to send still is to send. -/
theorem run_in_order_of_failed_send :
    let active : Directive := ⟨.active, none, none⟩
    let cast : Cast := ⟨.always active, .always (), ⟨[⟨5, .error "refused"⟩], ⟨7, .ok none⟩⟩,
      .idle, none⟩
    let i : Intervals := ⟨10, 20, 30⟩
    let s₀ := State.opening 0 false none cast
    let s := ((s₀.start i).turn Cast.partners i).turn Cast.partners i
    let xs : List Exchange := [⟨0, 0, .ping none (.ok active)⟩, ⟨0, 0, .prepare none (.ok ())⟩,
      ⟨0, 5, .send (.error "refused")⟩]
    Runs Cast.partners i s₀ xs s ∧ s.mode = .sending ∧ s.mode = modeAfter .pinging xs := by
  intro active cast i s₀ s xs
  have hr : Runs Cast.partners i s₀ xs s :=
    (Runs.start.turn (by decide) rfl rfl).turn (by decide) rfl rfl
  exact ⟨hr, rfl, (run_in_order hr).1 (by decide)⟩

end Loop

end LiveTelemetry
