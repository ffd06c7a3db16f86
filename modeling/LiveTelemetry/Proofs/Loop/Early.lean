import LiveTelemetry.Proofs.Loop.Ending
/-!
What an earlier stop from outside does to a run. Main statement: it cuts the run short and does
nothing else, so the calls are the first of those that there would have been, no counter is further
on, and the end comes no later.
-/
namespace LiveTelemetry

/-- No counter is further on than its fellow. -/
structure CycleTally.UpTo (a b : CycleTally) : Prop where
  pings : a.pings ≤ b.pings
  posts : a.posts ≤ b.posts
  failures : a.failures ≤ b.failures
  activations : a.activations ≤ b.activations
  deactivations : a.deactivations ≤ b.deactivations
  redirects : a.redirects ≤ b.redirects

namespace CycleTally.UpTo

theorem refl (a : CycleTally) : a.UpTo a :=
  ⟨Nat.le_refl _, Nat.le_refl _, Nat.le_refl _, Nat.le_refl _, Nat.le_refl _, Nat.le_refl _⟩

theorem trans {a b c : CycleTally} (h : a.UpTo b) (h' : b.UpTo c) : a.UpTo c where
  pings := h.pings.trans h'.pings
  posts := h.posts.trans h'.posts
  failures := h.failures.trans h'.failures
  activations := h.activations.trans h'.activations
  deactivations := h.deactivations.trans h'.deactivations
  redirects := h.redirects.trans h'.redirects

end CycleTally.UpTo

namespace Loop

/-- What of a loop does not depend on when it is told to stop. -/
structure Course (σ : Type) where
  mode : Mode
  override : Option Override
  tally : CycleTally
  clock : Nat
  partners : σ
  calls : List (Nat × Call)

/-- The endpoint in use, if not the configured one. -/
def Course.endpoint (c : Course σ) : Option String :=
  (Override.current c.override c.clock).1.map Override.endpoint

namespace State

def course (s : State σ) : Course σ :=
  ⟨s.mode, s.override, s.tally, s.clock, s.partners, s.calls⟩

/-! What the operations of a loop do to its course -/

@[simp] theorem course_note (s : State σ) (n : Notice) : (s.note n).course = s.course := by
  simp [course]

theorem course_endpoint (s : State σ) :
    s.endpoint.2.course = { s.course with
      override := (Override.current s.course.override s.course.clock).1 } := by
  simp [course]

theorem course_receive (s : State σ) (d : Directive) :
    (s.receive d).course = { s.course with
      override := (Override.apply s.course.override d s.course.clock).1
      tally := { s.course.tally with
        redirects := s.course.tally.redirects + if d.redirect.isSome then 1 else 0 } } := by
  simp [course, receive_tally]

theorem course_ask (s : State σ) (c : Call) (r : Reply α) (w : σ) :
    (s.ask c r w).course = { s.course with
      clock := s.course.clock + r.latency
      partners := w
      calls := s.course.calls ++ [(s.course.clock, c)] } := by
  simp [course]

theorem course_countFailure (s : State σ) :
    s.countFailure.course = { s.course with
      tally := { s.course.tally with failures := s.course.tally.failures + 1 } } :=
  rfl

theorem course_countPing (s : State σ) :
    s.countPing.course = { s.course with
      tally := { s.course.tally with pings := s.course.tally.pings + 1 } } :=
  rfl

theorem course_activate (s : State σ) :
    s.activate.course = { s.course with
      mode := .sending
      tally := { s.course.tally with activations := s.course.tally.activations + 1 } } :=
  rfl

theorem course_deactivate (s : State σ) :
    s.deactivate.course = { s.course with
      mode := .pinging
      tally := { s.course.tally with deactivations := s.course.tally.deactivations + 1 } } :=
  rfl

theorem course_look (s : State σ) :
    (s.countPost.mark (.call .directive)).course = { s.course with
      tally := { s.course.tally with posts := s.course.tally.posts + 1 }
      calls := s.course.calls ++ [(s.course.clock, .directive)] } := by
  simp [course]

/-- Two loops on one course. The first will be told to stop at `due` from outside and the other
later, if at all; or the first has been told. -/
structure Tracks (due : Nat) (s t : State σ) : Prop where
  course : s.course = t.course
  stops : s.told = true ∨
    s.stopAt = some due ∧ (∀ d, t.stopAt = some d → due < d) ∧ s.told = t.told

variable {due : Nat} {s t s' t' : State σ}

theorem Tracks.mode_eq (h : Tracks due s t) : s.mode = t.mode :=
  congrArg Course.mode h.course

theorem Tracks.clock_eq (h : Tracks due s t) : s.clock = t.clock :=
  congrArg Course.clock h.course

theorem Tracks.endpoint_eq (h : Tracks due s t) : s.endpoint.1 = t.endpoint.1 :=
  congrArg Course.endpoint h.course

/-- An operation that leaves alone who is told, and when. -/
theorem Tracks.of_silent (h : Tracks due s t) (hs : s'.told = s.told ∧ s'.stopAt = s.stopAt)
    (ht : t'.told = t.told ∧ t'.stopAt = t.stopAt) (course : s'.course = t'.course) :
    Tracks due s' t' := by
  refine ⟨course, ?_⟩
  rw [hs.1, hs.2, ht.1, ht.2]
  exact h.stops

theorem Tracks.note (h : Tracks due s t) (n : Notice) : Tracks due (s.note n) (t.note n) :=
  h.of_silent (by simp) (by simp) (by simpa using h.course)

theorem Tracks.endpoint (h : Tracks due s t) : Tracks due s.endpoint.2 t.endpoint.2 := by
  apply h.of_silent (by simp) (by simp)
  rw [course_endpoint, course_endpoint, h.course]

theorem Tracks.receive (h : Tracks due s t) (d : Directive) :
    Tracks due (s.receive d) (t.receive d) := by
  apply h.of_silent (by simp) (by simp)
  rw [course_receive, course_receive, h.course]

theorem Tracks.countFailure (h : Tracks due s t) : Tracks due s.countFailure t.countFailure := by
  apply h.of_silent (by simp) (by simp)
  rw [course_countFailure, course_countFailure, h.course]

theorem Tracks.countPing (h : Tracks due s t) : Tracks due s.countPing t.countPing := by
  apply h.of_silent (by simp) (by simp)
  rw [course_countPing, course_countPing, h.course]

theorem Tracks.activate (h : Tracks due s t) : Tracks due s.activate t.activate := by
  apply h.of_silent (by simp) (by simp)
  rw [course_activate, course_activate, h.course]

theorem Tracks.deactivate (h : Tracks due s t) : Tracks due s.deactivate t.deactivate := by
  apply h.of_silent (by simp) (by simp)
  rw [course_deactivate, course_deactivate, h.course]

theorem Tracks.observed (h : Tracks due s t) (p : Partners σ) :
    Tracks due (s.observed p) (t.observed p) := by
  have hlook : Tracks due (s.countPost.mark (.call .directive))
      (t.countPost.mark (.call .directive)) := by
    apply h.of_silent (by simp) (by simp)
    rw [course_look, course_look, h.course]
  have hdirective : p.directive s.partners = p.directive t.partners :=
    congrArg (fun c : Course σ => p.directive c.partners) h.course
  rw [State.observed, State.observed, hdirective]
  exact hlook.receive _

theorem stopBy_eq_none (later : ∀ d, t.stopAt = some d → due < d) {n : Nat} (h : n ≤ due) :
    t.stopBy n = none := by
  apply Option.filter_eq_none_iff.2
  intro d hd
  have hlt := later d hd
  rw [decide_eq_true_eq]
  omega

/-- A call takes both loops as far. The first may be told while it is under way, and the other too
only if it tells both itself. -/
theorem Tracks.ask (h : Tracks due s t) (c : Call) (r : Reply α) (w : σ) :
    Tracks due (s.ask c r w) (t.ask c r w) := by
  refine ⟨by rw [course_ask, course_ask, h.course], ?_⟩
  rcases h.stops with told | ⟨hs, ht, told⟩
  · exact .inl (by simp [told])
  · have hclock := h.clock_eq
    by_cases hdue : due ≤ s.clock + r.latency
    · exact .inl (by simp [stopBy_of_stopAt hs, hdue])
    · have hlate : t.stopBy (t.clock + r.latency) = none :=
        stopBy_eq_none ht (by omega)
      refine .inr ⟨?_, ?_, ?_⟩
      · simp [stopBy_of_stopAt hs, hdue, hs]
      · simpa [hlate] using ht
      · simp [stopBy_of_stopAt hs, hdue, hlate, told]

theorem Tracks.pinged (h : Tracks due s t) (p : Partners σ) :
    s.pingReply p = t.pingReply p ∧ Tracks due (s.pinged p) (t.pinged p) := by
  have hping : p.ping s.clock s.endpoint.1 s.partners = p.ping t.clock t.endpoint.1 t.partners :=
    congrArg (fun c : Course σ => p.ping c.clock c.endpoint c.partners) h.course
  have hreply : s.pingReply p = t.pingReply p := congrArg Prod.fst hping
  refine ⟨hreply, ?_⟩
  rw [State.pinged, State.pinged, hreply, hping, askThere, askThere, h.endpoint_eq]
  exact h.endpoint.ask _ _ _

theorem Tracks.prepared (h : Tracks due s t) (p : Partners σ) :
    s.prepareReply p = t.prepareReply p ∧ Tracks due (s.prepared p) (t.prepared p) := by
  have hprepare :
      p.prepare s.clock s.endpoint.1 s.partners = p.prepare t.clock t.endpoint.1 t.partners :=
    congrArg (fun c : Course σ => p.prepare c.clock c.endpoint c.partners) h.course
  have hreply : s.prepareReply p = t.prepareReply p := congrArg Prod.fst hprepare
  refine ⟨hreply, ?_⟩
  rw [State.prepared, State.prepared, hreply, hprepare, askThere, askThere, h.endpoint_eq]
  exact h.endpoint.ask _ _ _

theorem Tracks.sent (h : Tracks due s t) (p : Partners σ) :
    s.sendReply p = t.sendReply p ∧ Tracks due (s.sent p) (t.sent p) := by
  have hsend : p.send s.clock s.partners = p.send t.clock t.partners :=
    congrArg (fun c : Course σ => p.send c.clock c.partners) h.course
  have hreply : s.sendReply p = t.sendReply p := congrArg Prod.fst hsend
  refine ⟨hreply, ?_⟩
  rw [State.sent, State.sent, hreply, hsend]
  exact h.ask _ _ _

/-- Two loops after a cycle, which ask for the same wait. -/
def CycleTracks (due : Nat) (x y : State σ × Option Nat) : Prop :=
  Tracks due x.1 y.1 ∧ x.2 = y.2

theorem Tracks.pingCycle (h : Tracks due s t) (p : Partners σ) (i : Intervals) :
    CycleTracks due (s.pingCycle p i) (t.pingCycle p i) := by
  obtain ⟨hreply, hpinged⟩ := h.pinged p
  rw [pingCycle_eq, pingCycle_eq, hreply, h.endpoint_eq]
  cases (t.pingReply p).outcome with
  | error e => exact ⟨hpinged.countFailure.note _, rfl⟩
  | ok d =>
    have hreceived := hpinged.countPing.receive d
    cases ha : d.isActive with
    | true =>
      simp only [ha, ↓reduceIte]
      rw [hreceived.endpoint_eq]
      exact ⟨(hreceived.endpoint.note _).activate, rfl⟩
    | false =>
      simp only [ha, Bool.false_eq_true, ↓reduceIte]
      exact ⟨hreceived.note _, rfl⟩

theorem Tracks.observe (h : Tracks due s t) (p : Partners σ) (i : Intervals) :
    CycleTracks due (s.observe p i) (t.observe p i) := by
  have hobserved := h.observed p
  have hdirective : p.directive s.partners = p.directive t.partners :=
    congrArg (fun c : Course σ => p.directive c.partners) h.course
  rw [observe_eq, observe_eq, hdirective]
  cases (p.directive t.partners).isActive with
  | true => exact ⟨hobserved, rfl⟩
  | false => exact ⟨(hobserved.note _).deactivate, rfl⟩

theorem Tracks.postCycle (h : Tracks due s t) (p : Partners σ) (i : Intervals) :
    CycleTracks due (s.postCycle p i) (t.postCycle p i) := by
  obtain ⟨hreply, hprepared⟩ := h.prepared p
  obtain ⟨hreply', hsent⟩ := hprepared.sent p
  rw [postCycle_eq, postCycle_eq, hreply, hreply', h.endpoint_eq]
  cases (t.prepareReply p).outcome with
  | error e => exact ⟨hprepared.countFailure.note _, rfl⟩
  | ok u =>
    cases ((t.prepared p).sendReply p).outcome with
    | error e => exact ⟨hsent.countFailure.note _, rfl⟩
    | ok u => exact hsent.observe p i

theorem Tracks.cycle (h : Tracks due s t) (p : Partners σ) (i : Intervals) :
    CycleTracks due (s.cycle p i) (t.cycle p i) := by
  unfold State.cycle
  rw [h.mode_eq]
  cases t.mode with
  | pinging => exact h.pingCycle p i
  | sending => exact h.postCycle p i
  | stopped => exact ⟨h, rfl⟩

/-! How far a loop has come -/

/-- `s` has come no further than `t`, and its calls are the first of those of `t`. -/
structure Within (s t : State σ) : Prop where
  calls : s.calls <+: t.calls
  tally : s.tally.UpTo t.tally
  clock : s.clock ≤ t.clock

theorem Within.trans {r s t : State σ} (h : Within r s) (h' : Within s t) : Within r t :=
  ⟨h.calls.trans h'.calls, h.tally.trans h'.tally, h.clock.trans h'.clock⟩

theorem within_of_course (h : s.course = t.course) : Within s t where
  calls := by
    have hcalls : s.calls = t.calls := congrArg Course.calls h
    exact hcalls ▸ List.prefix_rfl
  tally := by
    have htally : s.tally = t.tally := congrArg Course.tally h
    rw [htally]
    exact .refl _
  clock := Nat.le_of_eq (congrArg Course.clock h)

theorem Within.finish (h : Within s t) : Within s.finish t :=
  ⟨by simpa using h.calls, by simpa using h.tally, by simpa using h.clock⟩

theorem course_rest (s : State σ) (wait : Option Nat) :
    (s.rest wait).course = { s.course with clock := (s.rest wait).clock } := by
  simp [course]

/-- After a cycle both loops wait as long, or the first is told by the end of its wait at the
latest. -/
theorem Tracks.rest (h : Tracks due s t) (timely : t.Timely) (wait : Option Nat) :
    Tracks due (s.rest wait) (t.rest wait) ∨
      (s.rest wait).told = true ∧ Within (s.rest wait) (t.rest wait) := by
  have hclock := h.clock_eq
  have hwithin (hle : (s.rest wait).clock ≤ (t.rest wait).clock) :
      Within (s.rest wait) (t.rest wait) := by
    have hsame := within_of_course h.course
    exact ⟨by simpa using hsame.calls, by simpa using hsame.tally, hle⟩
  cases wait with
  | none => exact .inl h
  | some wait =>
    cases told : s.told with
    | true =>
      have hs : s.rest (some wait) = s := sleep_of_told told wait
      refine .inr ⟨by rw [hs, told], hwithin ?_⟩
      rw [hs, hclock]
      exact (timely.rest (some wait)).2
    | false =>
      obtain ⟨hstop, hlater, htold⟩ := h.stops.resolve_left (by simp [told])
      have hs : s.rest (some wait) = _ := sleep_of_not_told told wait
      have ht : t.rest (some wait) = _ := sleep_of_not_told (htold ▸ told) wait
      by_cases hdue : due ≤ s.clock + min wait longestWait
      · refine .inr ⟨?_, hwithin ?_⟩
        · simp [hs, stopBy_of_stopAt hstop, hdue]
        · have hfirst : (s.rest (some wait)).clock = due := by
            simp [hs, stopBy_of_stopAt hstop, hdue]
          have hsecond : (t.rest (some wait)).clock =
              (t.stopBy (t.clock + min wait longestWait)).getD
                (t.clock + min wait longestWait) := by
            rw [ht]
          rw [hfirst, hsecond]
          cases hby : t.stopBy (t.clock + min wait longestWait) with
          | none => simpa [← hclock] using hdue
          | some d => exact Nat.le_of_lt (hlater d (Option.filter_eq_some_iff.1 hby).1)
      · have hearly : s.stopBy (s.clock + min wait longestWait) = none := by
          rw [stopBy_of_stopAt hstop, if_neg hdue]
        have hlate : t.stopBy (t.clock + min wait longestWait) = none :=
          stopBy_eq_none hlater (by omega)
        refine .inl ⟨?_, .inr ⟨?_, ?_, ?_⟩⟩
        · rw [course_rest, course_rest, h.course]
          simp only [hs, ht, hearly, hlate, Option.getD_none]
          rw [hclock]
        · simp [hs, hearly, hstop]
        · simpa [ht, hlate] using hlater
        · simp [hs, ht, hearly, hlate, htold]

end State

theorem Exit.within {p : Partners σ} {i : Intervals} {s t : State σ} {wait : Option Nat}
    (h : Exit p i s t wait) : s.Within t := by
  cases h with
  | pingFailed mode reply =>
    refine ⟨by simp, ?_, by simp⟩
    constructor <;> simp
  | activated mode reply active =>
    refine ⟨by simp, ?_, by simp⟩
    constructor <;> simp [State.receive_tally]
  | idle mode reply idle =>
    refine ⟨by simp, ?_, by simp⟩
    constructor <;> simp [State.receive_tally]
  | prepareFailed mode reply =>
    refine ⟨by simp, ?_, by simp⟩
    constructor <;> simp
  | sendFailed mode ready reply =>
    refine ⟨by simp, ?_, by simp; omega⟩
    constructor <;> simp
  | posted mode ready reply active =>
    refine ⟨by simp, ?_, by simp; omega⟩
    constructor <;> simp [State.observed_tally]
  | deactivated mode ready reply idle =>
    refine ⟨by simp, ?_, by simp; omega⟩
    constructor <;> simp [State.observed_tally]

theorem turn_within (p : Partners σ) (i : Intervals) {s : State σ} (going : s.mode ≠ .stopped) :
    s.Within (s.turn p i) := by
  obtain ⟨t, wait, he, hturn⟩ := turn_exit p i going
  have hcycle := he.within
  have hrest : t.clock ≤ (t.rest wait).clock := (he.timely.rest wait).2
  rw [hturn]
  exact ⟨by simpa using hcycle.calls, by simpa using hcycle.tally, hcycle.clock.trans hrest⟩

theorem goRound_within (p : Partners σ) (i : Intervals) {s r : State σ} {turns : Nat}
    (going : s.mode ≠ .stopped) (h : s.goRound p i turns = some r) : s.Within r := by
  have hfinish (t : State σ) : t.Within t.finish :=
    ⟨by simp, by simpa using CycleTally.UpTo.refl t.tally, by simp⟩
  induction turns generalizing s with
  | zero =>
    rw [State.goRound] at h
    split at h
    · obtain rfl := Option.some.inj h
      exact hfinish s
    · contradiction
  | succ turns ih =>
    rw [State.goRound] at h
    split at h
    · obtain rfl := Option.some.inj h
      exact hfinish s
    · exact (turn_within p i going).trans (ih (turn_going p i going) h)

namespace State

variable {due : Nat} {s t : State σ}

/-- A turn keeps two loops on one course, or the first has been told by its end. -/
theorem Tracks.turn (h : Tracks due s t) (p : Partners σ) (i : Intervals)
    (going : s.mode ≠ .stopped) :
    Tracks due (s.turn p i) (t.turn p i) ∨
      (s.turn p i).told = true ∧ Within (s.turn p i) (t.turn p i) := by
  obtain ⟨hcycle, hwait⟩ := h.cycle p i
  have timely : (t.cycle p i).1.Timely := (cycle_exit p i (h.mode_eq ▸ going)).timely
  rw [turn_eq, turn_eq, hwait]
  exact hcycle.rest timely _

/-- A loop that has been told comes no further than another that goes on from where it is. -/
theorem Within.goRound (h : Within s t) (told : s.told = true) (p : Partners σ) (i : Intervals)
    (going : t.mode ≠ .stopped) {turns : Nat} {r' : State σ}
    (returned : t.goRound p i turns = some r') :
    ∃ r, s.goRound p i turns = some r ∧ Within r r' :=
  ⟨s.finish, goRound_of_told p i told turns, h.finish.trans (goRound_within p i going returned)⟩

/-- If the second loop returns, so does the first, in no more turns, and it comes no further. -/
theorem Tracks.goRound (h : Tracks due s t) (p : Partners σ) (i : Intervals)
    (going : s.mode ≠ .stopped) {turns : Nat} {r' : State σ}
    (returned : t.goRound p i turns = some r') :
    ∃ r, s.goRound p i turns = some r ∧ Within r r' := by
  induction turns generalizing s t with
  | zero =>
    cases told : s.told with
    | true => exact (within_of_course h.course).goRound told p i (h.mode_eq ▸ going) returned
    | false =>
      obtain ⟨-, -, htold⟩ := h.stops.resolve_left (by simp [told])
      simp [State.goRound, ← htold, told] at returned
  | succ turns ih =>
    cases told : s.told with
    | true => exact (within_of_course h.course).goRound told p i (h.mode_eq ▸ going) returned
    | false =>
      obtain ⟨-, -, htold⟩ := h.stops.resolve_left (by simp [told])
      simp only [State.goRound, ← htold, told, Bool.false_eq_true, ↓reduceIte] at returned ⊢
      rcases h.turn p i going with hturn | ⟨hover, hwithin⟩
      · exact ih hturn (turn_going p i going) returned
      · exact hwithin.goRound hover p i (turn_going p i (h.mode_eq ▸ going)) returned

/-- Whatever becomes of the second loop, it comes by a state that the first, once it returns, has
not come further than. -/
theorem Tracks.visits (h : Tracks due s t) (p : Partners σ) (i : Intervals)
    (going : s.mode ≠ .stopped) {t₀ : State σ} (visited : Visits p i t₀ t) {turns : Nat}
    {r : State σ} (returned : s.goRound p i turns = some r) :
    ∃ u, Visits p i t₀ u ∧ Within r u := by
  have hover {s t : State σ} (hw : Within s t) (told : s.told = true) (hv : Visits p i t₀ t)
      {turns : Nat} (hr : s.goRound p i turns = some r) : ∃ u, Visits p i t₀ u ∧ Within r u := by
    obtain rfl := Option.some.inj ((goRound_of_told p i told turns).symm.trans hr)
    exact ⟨t, hv, hw.finish⟩
  induction turns generalizing s t with
  | zero =>
    cases told : s.told with
    | true => exact hover (within_of_course h.course) told visited returned
    | false => simp [State.goRound, told] at returned
  | succ turns ih =>
    cases told : s.told with
    | true => exact hover (within_of_course h.course) told visited returned
    | false =>
      obtain ⟨-, -, htold⟩ := h.stops.resolve_left (by simp [told])
      have hnext : Visits p i t₀ (t.turn p i) := visited.turn (h.mode_eq ▸ going) (htold ▸ told)
      simp only [State.goRound, told, Bool.false_eq_true, ↓reduceIte] at returned
      rcases h.turn p i going with hturn | ⟨hdone, hwithin⟩
      · exact ih hturn (turn_going p i going) hnext returned
      · exact hover hwithin hdone hnext returned

end State

/-- With more turns a loop that returns does so in the same state. -/
theorem goRound_add {p : Partners σ} {i : Intervals} {s r : State σ} {turns : Nat}
    (h : s.goRound p i turns = some r) (more : Nat) : s.goRound p i (turns + more) = some r := by
  induction turns generalizing s with
  | zero =>
    rw [State.goRound] at h
    split at h
    · rename_i told
      rw [State.goRound_of_told p i told, h]
    · contradiction
  | succ turns ih =>
    rw [Nat.succ_add]
    rw [State.goRound] at h ⊢
    split at h
    · rename_i told
      rw [if_pos told, h]
    · rename_i told
      rw [if_neg told]
      exact ih h

/-- A stop from outside that comes earlier cuts a run short and does nothing else. A run that
returns although the stop would come later, or never, returns with the earlier stop too, in no more
turns; its calls are then the first of those that there were, no counter is further on, and it ends
no later. If the run with the later stop does not return, it still comes by a state of which that
holds. -/
theorem cut_short_by_earlier_stop (p : Partners σ) (i : Intervals) (clock : Nat) (before : Bool)
    (w : σ) {early : Nat} {late : Option Nat} (h : ∀ ms, late = some ms → early < ms) :
    let s₀ := State.opening clock before (some early) w
    let t₀ := State.opening clock before late w
    (∀ m n r r', s₀.run p i m = some r → t₀.run p i n = some r' → r.Within r') ∧
    (∀ n r', t₀.run p i n = some r' → ∃ r, s₀.run p i n = some r) ∧
    ∀ m r, s₀.run p i m = some r → ∃ t, Visits p i t₀ t ∧ r.Within t := by
  intro s₀ t₀
  have going : (s₀.start i).mode ≠ .stopped := by simp [s₀]
  have hstart : State.Tracks (clock + early) (s₀.start i) (t₀.start i) := by
    refine ⟨?_, .inr ⟨?_, ?_, ?_⟩⟩
    · cases before with
      | false => rfl
      | true => rfl
    · simp [s₀]
    · intro d hd
      obtain ⟨ms, hms, rfl⟩ : ∃ ms, late = some ms ∧ clock + ms = d := by simpa [t₀] using hd
      have hlt := h ms hms
      omega
    · simp [s₀, t₀]
  refine ⟨?_, ?_, ?_⟩
  · intro m n r r' hr hr'
    obtain ⟨q, hq, hwithin⟩ := hstart.goRound p i going hr'
    obtain rfl : q = r := by
      have hm := goRound_add hr n
      have hn := goRound_add hq m
      rw [Nat.add_comm n m] at hn
      exact Option.some.inj (hn.symm.trans hm)
    exact hwithin
  · intro n r' hr'
    obtain ⟨r, hr, -⟩ := hstart.goRound p i going hr'
    exact ⟨r, hr⟩
  · intro m r hr
    exact hstart.visits p i going .start hr

/-- A stop that comes while the loop prepares, and one that comes in the wait after its second post:
the send of the first cycle is made in both runs. -/
theorem cut_short_by_earlier_stop_of_prepare :
    let cast : Cast :=
      { ping := ⟨[⟨3, .ok ⟨.active, some ⟨"http://b", some 30⟩, none⟩⟩], ⟨3, .ok .idle⟩⟩
        prepare := ⟨[], ⟨5, .ok ()⟩⟩
        send := ⟨[⟨2, .ok (some ⟨.active, none, none⟩)⟩], ⟨2, .error "late"⟩⟩
        observed := .idle
        stopOn := none }
    let i : Intervals := ⟨10, 20, 30⟩
    let s₀ := State.opening 0 false (some 4) cast
    let t₀ := State.opening 0 false (some 40) cast
    (∀ ms, some 40 = some ms → 4 < ms) ∧ ∃ r r',
      s₀.run Cast.partners i 5 = some r ∧ t₀.run Cast.partners i 5 = some r' ∧
      r.calls = [(0, .ping none), (3, .prepare (some "http://b")), (8, .send), (10, .directive)] ∧
      r'.calls = r.calls ++ [(30, .prepare (some "http://b")), (35, .send)] ∧
      r.clock = 10 ∧ r'.clock = 40 ∧ r.Within r' := by
  intro cast i s₀ t₀
  have hrun : (s₀.run Cast.partners i 5).map (fun r => (r.calls, r.clock)) =
      some ([(0, .ping none), (3, .prepare (some "http://b")), (8, .send), (10, .directive)],
        10) := by
    decide +kernel
  have hrun' : (t₀.run Cast.partners i 5).map (fun r => (r.calls, r.clock)) =
      some ([(0, .ping none), (3, .prepare (some "http://b")), (8, .send), (10, .directive),
        (30, .prepare (some "http://b")), (35, .send)], 40) := by
    decide +kernel
  obtain ⟨r, hr, hread⟩ := Option.map_eq_some_iff.1 hrun
  obtain ⟨r', hr', hread'⟩ := Option.map_eq_some_iff.1 hrun'
  obtain ⟨hcalls, hclock⟩ := Prod.mk.inj hread
  obtain ⟨hcalls', hclock'⟩ := Prod.mk.inj hread'
  have h : ∀ ms, some 40 = some ms → 4 < ms := by simp
  obtain ⟨hwithin, -⟩ := cut_short_by_earlier_stop Cast.partners i 0 false cast h
  refine ⟨h, r, r', hr, hr', hcalls, ?_, hclock, hclock', hwithin 5 5 r r' hr hr'⟩
  rw [hcalls, hcalls']
  rfl

end Loop

end LiveTelemetry
