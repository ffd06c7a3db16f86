import LiveTelemetry.Proofs.Loop.Pace
import LiveTelemetry.Proofs.Loop.Stop
import LiveTelemetry.Proofs.Loop.Tally
/-!
When a run ends. Main statements: a run that returns was told to stop, and it ends when it was first
told if that was before its start or during a wait, and otherwise with the calls of the cycle that
was under way; a loop that was told does nothing in a later run.
-/
namespace LiveTelemetry.Loop

/-- When a run that was opened at a time, and maybe told to stop `before`, is over. Its first stop
comes at a time, and it has had some exchanges by its end. -/
inductive Ends (i : Intervals) (opened : Nat) (before : Bool) :
    Nat → List Exchange → Nat → Prop where
  /-- The run has not begun. -/
  | unbegun (told : before = true) : Ends i opened before opened [] opened
  /-- The loop waits. -/
  | asleep {t : Nat} {xs : List Exchange} {x : Exchange} (free : before = false)
      (since : x.ended ≤ t) (still : t ≤ x.ended + min (x.pause i) longestWait) :
      Ends i opened before t (xs ++ [x]) t
  /-- A cycle is under way. -/
  | amid {t : Nat} {xs ys : List Exchange} {y z : Exchange} (free : before = false)
      (cycle : CycleOf (modeAfter .pinging xs) ((ys ++ [y]).map Exchange.deed))
      (mem : z ∈ ys ++ [y]) (since : z.begun ≤ t) (still : t ≤ z.ended) :
      Ends i opened before t (xs ++ (ys ++ [y])) y.ended

namespace State

/-- The loop has been told to stop, and first while one of some exchanges was under way. -/
def ToldDuring (zs : List Exchange) (s : State σ) : Prop :=
  s.told = true ∧ ∃ t, s.firstStop = some t ∧ ∃ z ∈ zs, z.begun ≤ t ∧ t ≤ z.ended

theorem FreeBefore.free_or_told {x : Exchange} {s t : State (Watched σ)} (h : s.FreeBefore x)
    (ha : s.Alike t) : t.Free ∨ t.ToldDuring [x] := by
  rcases h with hf | ⟨τ, hsince, hstill, hc⟩
  · exact .inl (hf.congr ha)
  · have hcut := hc.congr ha
    exact .inr ⟨hcut.told, τ, hcut.firstStop, x, List.mem_singleton_self x, hsince, hstill⟩

theorem ToldDuring.mono {zs zs' : List Exchange} {s : State σ} (h : s.ToldDuring zs)
    (hsub : zs ⊆ zs') : s.ToldDuring zs' := by
  obtain ⟨told, t, ht, z, hz, hbounds⟩ := h
  exact ⟨told, t, ht, z, hsub hz, hbounds⟩

/-- A wait goes on for its time, or ends when the first stop comes. -/
theorem Free.rest_told {s : State (Watched σ)} (h : s.Free) (ht : s.Timely) (wait : Option Nat) :
    (s.rest wait).Free ∨ (s.rest wait).told = true ∧
      (s.rest wait).firstStop = some (s.rest wait).clock ∧ s.clock ≤ (s.rest wait).clock ∧
      (s.rest wait).clock ≤ s.clock + min (wait.getD 0) longestWait := by
  rcases h.rest wait with hf | ⟨t, hc⟩
  · exact .inl hf
  · right
    cases wait with
    | none =>
      have hfree : s.told = true := hc.told
      rw [h.told] at hfree
      contradiction
    | some wait =>
      have hr : s.rest (some wait) = _ := sleep_of_not_told h.told wait
      cases hs : s.stopBy (s.clock + min wait longestWait) with
      | none =>
        have htold : (s.rest (some wait)).told = false := by simp [hr, hs, h.told]
        rw [hc.told] at htold
        contradiction
      | some due =>
        obtain ⟨hdue, hle⟩ := Option.filter_eq_some_iff.1 hs
        have hclock : (s.rest (some wait)).clock = due := by simp [hr, hs]
        have hstop : (s.rest (some wait)).firstStop = some due := by
          simp [hr, hs, h.firstStop]
        rw [hclock, hstop]
        exact ⟨hc.told, rfl, ht due hdue, of_decide_eq_true hle⟩

end State

/-- A cycle that a loop begins without having been told adds to the record the exchanges during
which it may have been told. -/
theorem Exit.free_or_told {p : Partners σ} {i : Intervals} {s t : State (Watched σ)}
    {wait : Option Nat} (h : Exit p.watched i s t wait) (hf : s.Free) (ht : s.Timely) :
    ∃ zs, t.partners.seen = s.partners.seen ++ zs ∧ (t.Free ∨ t.ToldDuring zs) := by
  rcases h.alike with ha | ⟨-, ha⟩ | ⟨-, ha⟩
  · exact ⟨_, ha.seen.trans (s.seen_pinged p), (hf.pinged ht p).free_or_told ha⟩
  · exact ⟨_, ha.seen.trans (s.seen_prepared p), (hf.prepared ht p).free_or_told ha⟩
  · refine ⟨[s.prepareExchange p.watched, (s.prepared p.watched).sendExchange p.watched],
      by simp [ha.seen], ?_⟩
    rcases hf.prepared ht p with hfree | ⟨τ, hsince, hstill, hc⟩
    · have hsent := hfree.sent (State.ask_timely _ _ _ _) p
      exact (hsent.free_or_told ha).imp_right fun hd => hd.mono (by simp)
    · -- The send is begun all the same, and the first stop stays that of the call to prepare.
      have hcut := (hc.sent p).congr ha
      exact .inr ⟨hcut.told, τ, hcut.firstStop, _, List.mem_cons_self, hsince, hstill⟩

/-- No stop has come, or the loop was told at a time and is at its end. -/
def Concluded (i : Intervals) (opened : Nat) (before : Bool) (s : State (Watched σ)) : Prop :=
  before = false ∧ s.Free ∨
    s.told = true ∧ ∃ t, s.firstStop = some t ∧ Ends i opened before t s.partners.seen s.clock

theorem Concluded.turn {p : Partners σ} {i : Intervals} {opened : Nat} {before : Bool}
    {s : State (Watched σ)} (hb : before = false) (hf : s.Free) (ht : s.Timely)
    (ho : InOrder s) (hp : Punctual i opened s) (going : s.mode ≠ .stopped) :
    Concluded i opened before (s.turn p.watched i) := by
  obtain ⟨t, wait, he, hturn⟩ := turn_exit p.watched i going
  obtain ⟨zs, hzs, hfree⟩ := he.free_or_told hf ht
  obtain ⟨-, ys, y, hys, hended, hpause, -⟩ := he.onTime hp.onTime (hp.clock hf.told)
  obtain ⟨cs, hcs, hcycle, -⟩ := turn_cycle p i going
  have hseen : (s.turn p.watched i).partners.seen = t.partners.seen := by
    rw [hturn, (t.rest_fields wait).2.2.2]
  -- The exchanges that may tell the loop, those that take the time and those of the cycle are one.
  obtain rfl : ys ++ [y] = zs := List.append_cancel_left (hys.symm.trans hzs)
  obtain rfl : ys ++ [y] = cs := List.append_cancel_left (hys.symm.trans (hseen.symm.trans hcs))
  rw [ho.mode going] at hcycle
  rw [Concluded, hseen, hys, hturn]
  rcases hfree with hfree | ⟨told, τ, hτ, z, hz, hsince, hstill⟩
  · rcases hfree.rest_told he.timely wait with hrest | ⟨told, hstop, hsince, hstill⟩
    · exact .inl ⟨hb, hrest⟩
    · rw [← hended] at hsince hstill
      rw [← hpause] at hstill
      refine .inr ⟨told, _, hstop, ?_⟩
      rw [← List.append_assoc]
      exact .asleep hb hsince hstill
  · have hrest : t.rest wait = t := by
      cases wait with
      | none => rfl
      | some wait => exact State.sleep_of_told told wait
    rw [hrest, ← hended]
    exact .inr ⟨told, τ, hτ, .amid hb hcycle hz hsince hstill⟩

theorem Visits.concluded {p : Partners σ} {i : Intervals} {clock : Nat} {before : Bool}
    {wait : Option Nat} {w : σ} {s : State (Watched σ)}
    (h : Visits p.watched i ((State.opening clock before wait w).watch []) s) :
    Concluded i clock before s := by
  have ht : ((State.opening clock before wait w).watch []).Timely :=
    (State.opening_timely clock before wait w).congr (by simp) (by simp)
  induction h with
  | start =>
    cases before with
    | false => exact .inl ⟨rfl, rfl, rfl, rfl, rfl⟩
    | true => exact .inr ⟨rfl, clock, rfl, .unbegun rfl⟩
  | turn earlier going free ih =>
    rcases ih with ⟨hb, hf⟩ | ⟨told, -⟩
    · exact .turn hb hf (earlier.timely ht) earlier.inOrder earlier.punctual going
    · exact absurd told (by simp [free])
  | @finish s earlier going told ih =>
    rcases ih with ⟨-, hf⟩ | ⟨-, t, hstop, he⟩
    · exact absurd told (by simp [hf.told])
    · exact .inr ⟨by simpa using told, t, by simpa using hstop, by simpa using he⟩

namespace State

theorem stopBy_of_stopAt {s : State σ} {due : Nat} (h : s.stopAt = some due) (t : Nat) :
    s.stopBy t = if due ≤ t then some due else none := by
  rw [stopBy, h, Option.filter_some]
  simp

/-- A stop from outside that is to come at `due` is still to come, or the first stop came by
then. -/
def Met (due : Nat) (s : State σ) : Prop :=
  match s.firstStop with
  | none => s.stopAt = some due ∧ s.clock ≤ due
  | some t => t ≤ due

theorem Met.congr {due : Nat} {s : State σ} {t : State τ} (h : s.Met due)
    (hf : t.firstStop = s.firstStop) (hs : t.stopAt = s.stopAt) (hc : t.clock = s.clock) :
    t.Met due := by
  unfold Met at *
  rw [hf, hs, hc]
  exact h

theorem Met.ask {due : Nat} {s : State σ} (h : s.Met due) (c : Call) (r : Reply α) (w : σ) :
    (s.ask c r w).Met due := by
  obtain ⟨-, -, -, hclock, -, hstopAt, -⟩ := s.ask_fields c r w
  obtain ⟨-, hfirst, -⟩ := s.ask_history c r w
  unfold Met at *
  cases hf : s.firstStop with
  | some t => simpa [hfirst, hf] using h
  | none =>
    obtain ⟨hs, hle⟩ : s.stopAt = some due ∧ s.clock ≤ due := by simpa [hf] using h
    rw [hfirst, hf, hclock, hstopAt, Option.none_or]
    cases hr : r.stops with
    | true => simpa using hle
    | false =>
      by_cases hlate : due ≤ s.clock + r.latency
      · simp [stopBy_of_stopAt hs, hlate]
      · have hearly : s.clock + r.latency ≤ due := Nat.le_of_not_le hlate
        simpa [stopBy_of_stopAt hs, hs, hlate] using hearly

theorem Met.askThere {due : Nat} {s : State σ} (h : s.Met due) (c : Option String → Call)
    (r : Reply α) (w : σ) : (s.askThere c r w).Met due := by
  have hs : s.endpoint.2.Met due := h.congr (by simp) (by simp) (by simp)
  exact hs.ask _ r w

theorem Met.rest {due : Nat} {s : State σ} (h : s.Met due) (wait : Option Nat) :
    (s.rest wait).Met due := by
  cases wait with
  | none => exact h
  | some wait =>
    cases ht : s.told with
    | true =>
      have hr : s.rest (some wait) = s := sleep_of_told ht wait
      rwa [hr]
    | false =>
      have hr : s.rest (some wait) = _ := sleep_of_not_told ht wait
      rw [hr]
      unfold Met at *
      cases hf : s.firstStop with
      | some t => simpa [hf] using h
      | none =>
        obtain ⟨hs, hle⟩ : s.stopAt = some due ∧ s.clock ≤ due := by simpa [hf] using h
        by_cases hlate : due ≤ s.clock + min wait longestWait
        · simp [hf, stopBy_of_stopAt hs, hlate]
        · have hearly : s.clock + min wait longestWait ≤ due := Nat.le_of_not_le hlate
          simpa [hf, stopBy_of_stopAt hs, hs, hlate] using hearly

end State

theorem Exit.met {p : Partners σ} {i : Intervals} {s t : State σ} {wait : Option Nat}
    (h : Exit p i s t wait) {due : Nat} (hs : s.Met due) : t.Met due := by
  have hping : (s.pinged p).Met due := hs.askThere _ _ _
  have hprepare : (s.prepared p).Met due := hs.askThere _ _ _
  have hsend : ((s.prepared p).sent p).Met due := hprepare.ask _ _ _
  cases h with
  | pingFailed => exact hping.congr (by simp) (by simp) (by simp)
  | activated => exact hping.congr (by simp) (by simp) (by simp)
  | idle => exact hping.congr (by simp) (by simp) (by simp)
  | prepareFailed => exact hprepare.congr (by simp) (by simp) (by simp)
  | sendFailed => exact hsend.congr (by simp) (by simp) (by simp)
  | posted => exact hsend.congr (by simp) (by simp) (by simp)
  | deactivated => exact hsend.congr (by simp) (by simp) (by simp)

/-- A stop from outside is met when it comes. -/
theorem Visits.met {p : Partners σ} {i : Intervals} {clock ms : Nat} {before : Bool} {w : σ}
    {s : State σ} (h : Visits p i (State.opening clock before (some ms) w) s) :
    s.Met (clock + ms) := by
  induction h with
  | start => cases before <;> simp [State.Met]
  | turn _ going _ ih =>
    obtain ⟨t, wait, he, hturn⟩ := turn_exit p i going
    rw [hturn]
    exact (he.met ih).rest wait
  | finish _ _ _ ih => exact ih.congr (by simp) (by simp) (by simp)

/-- To be told again changes nothing but the history, and there not the first stop. -/
theorem State.tells_fields (n : Nat) {s : State σ} (told : s.told = true) {t : Nat}
    (hs : s.firstStop = some t) :
    (tell^[n] s).told = true ∧ (tell^[n] s).firstStop = some t ∧
    (tell^[n] s).clock = s.clock ∧ (tell^[n] s).calls = s.calls ∧
    (tell^[n] s).tally = s.tally := by
  induction n with
  | zero => exact ⟨told, hs, rfl, rfl, rfl⟩
  | succ n ih =>
    obtain ⟨-, hfirst, hclock, hcalls, htally⟩ := ih
    rw [Function.iterate_succ_apply']
    simp [hfirst, hclock, hcalls, htally]

theorem Runs.told_of_firstStop {p : Partners σ} {i : Intervals} {clock : Nat} {before : Bool}
    {wait : Option Nat} {w : σ} {xs : List Exchange} {s : State σ}
    (h : Runs p i (State.opening clock before wait w) xs s) {t : Nat} (hs : s.firstStop = some t) :
    s.told = true ∧ Ends i clock before t xs s.clock := by
  have hc : Concluded i clock before (s.watch xs) := Visits.concluded h
  rcases hc with ⟨-, hf⟩ | ⟨told, t', ht', he⟩
  · have hnone : s.firstStop = none := by simpa using hf.firstStop
    rw [hnone] at hs
    contradiction
  · have ht : s.firstStop = some t' := by simpa using ht'
    obtain rfl : t = t' := Option.some.inj (hs.symm.trans ht)
    exact ⟨told, he⟩

/-- A loop that was told to stop returns, however many more turns it is given. -/
theorem Visits.returns {p : Partners σ} {i : Intervals} {s₀ s : State σ} (h : Visits p i s₀ s)
    (h₀ : s₀.mode ≠ .stopped) (told : s.told = true) :
    ∃ r turns, r.firstStop = s.firstStop ∧ ∀ n, s₀.run p i (turns + n) = some r := by
  by_cases hm : s.mode = .stopped
  · obtain ⟨t, ht, going, told, rfl⟩ := h.exists_told h₀ hm
    obtain ⟨turns, hturns⟩ := (ht.run_eq h₀).1 going
    exact ⟨t.finish, turns, rfl, fun n => (hturns n).trans (t.goRound_of_told p i told n)⟩
  · obtain ⟨turns, hturns⟩ := (h.run_eq h₀).1 hm
    exact ⟨s.finish, turns, by simp, fun n => (hturns n).trans (s.goRound_of_told p i told n)⟩

/-- A loop that was told to stop in an earlier run returns at once. -/
theorem State.run_fresh_of_told (p : Partners σ) (i : Intervals) (now : Nat) (stopAt : Option Nat)
    (w : σ) (n : Nat) :
    ∃ r, (fresh now true stopAt w).run p i n = some r ∧ r.clock = now ∧ r.calls = [] ∧
      r.tally = .zero ∧ r.told = true :=
  ⟨_, goRound_of_told p i rfl n, rfl, rfl, rfl, rfl⟩

/-- A run returns only if it was told to stop, and it ends as `Ends` says, with all that it did
counted. Once it was told, whatever its partners reply, it returns, and it makes no difference how
often it is told. If it was told before, it returns at once. A stop from outside that is to come
after `ms` has come by then. In every later run the loop does nothing. -/
theorem run_ends_when_told (p : Partners σ) (i : Intervals) (clock : Nat) (before : Bool)
    (wait : Option Nat) (w : σ) :
    let s₀ := State.opening clock before wait w
    (∀ turns r, s₀.run p i turns = some r → ∃ t xs, r.firstStop = some t ∧ Runs p i s₀ xs r ∧
      Ends i clock before t xs r.clock ∧ r.calls = xs.flatMap Exchange.calls ∧
      r.tally = tallyOf xs) ∧
    (∀ s t, Visits p i s₀ s → s.firstStop = some t →
      (∃ r turns, r.firstStop = some t ∧ ∀ n, s₀.run p i (turns + n) = some r) ∧
      ∀ again n, ∃ r, (State.tell^[again] s).goRound p i n = some r ∧ r.firstStop = some t ∧
        r.clock = s.clock ∧ r.calls = s.calls ∧ r.tally = s.tally) ∧
    (before = true → ∀ n, ∃ r, s₀.run p i n = some r ∧ r.clock = clock ∧ r.calls = [] ∧
      r.tally = .zero) ∧
    (∀ ms s, wait = some ms → Visits p i s₀ s → s.firstStop.getD s.clock ≤ clock + ms) ∧
    (∀ turns r, s₀.run p i turns = some r → ∀ now stopAt v n, ∃ r',
      (State.fresh now r.told stopAt v).run p i n = some r' ∧ r'.clock = now ∧ r'.calls = [] ∧
      r'.tally = .zero ∧ r'.told = true) := by
  intro s₀
  have hgoing : s₀.mode ≠ .stopped := by simp [s₀]
  refine ⟨?_, ?_, ?_, ?_, ?_⟩
  · intro turns r hr
    obtain ⟨xs, s, hs, going, told, rfl⟩ := exists_runs_of_run hgoing hr
    have hfinish : Runs p i s₀ xs s.finish := Visits.finish hs going told
    have hc : Concluded i clock before (s.watch xs) := Visits.concluded hs
    rcases hc with ⟨-, hf⟩ | ⟨-, t, ht, -⟩
    · exact absurd told (by simpa using hf.told)
    · have hfirst : s.finish.firstStop = some t := by simpa using ht
      have ho : InOrder (s.finish.watch xs) := Visits.inOrder hfinish
      have htally : (s.finish.watch xs).tally = tallyOf xs := Visits.tally_eq hfinish
      exact ⟨t, xs, hfirst, hfinish, (hfinish.told_of_firstStop hfirst).2, ho.calls, htally⟩
  · intro s t hs ht
    obtain ⟨xs, hxs⟩ := hs.runs
    obtain ⟨told, -⟩ := hxs.told_of_firstStop ht
    refine ⟨?_, ?_⟩
    · rw [← ht]
      exact hs.returns hgoing told
    · intro again n
      obtain ⟨htold, hfirst, hclock, hcalls, htally⟩ := State.tells_fields again told ht
      exact ⟨_, State.goRound_of_told p i htold n, by simpa using hfirst, by simpa using hclock,
        by simpa using hcalls, by simpa using htally⟩
  · rintro rfl n
    exact ⟨_, State.goRound_of_told p i rfl n, rfl, rfl, rfl⟩
  · rintro ms s rfl hs
    have hmet : s.Met (clock + ms) := hs.met
    unfold State.Met at hmet
    cases hf : s.firstStop with
    | none =>
      rw [hf] at hmet
      exact hmet.2
    | some t =>
      rw [hf] at hmet
      exact hmet
  · intro turns r hr now stopAt v n
    obtain ⟨xs, s, -, -, told, rfl⟩ := exists_runs_of_run hgoing hr
    have htold : s.finish.told = true := by simpa using told
    rw [htold]
    exact State.run_fresh_of_told p i now stopAt v n

/-- A loop that is told while it waits after an idle ping returns at that time. -/
theorem run_ends_when_told_of_wait :
    let cast : Cast := ⟨.always .idle, .always (), .always none, .idle, none⟩
    let i : Intervals := ⟨10, 20, 30⟩
    let s₀ := State.opening 0 false (some 4) cast
    let s := ((s₀.start i).turn Cast.partners i).finish
    (∃ n, s₀.run Cast.partners i n = some s) ∧ s.firstStop = some 4 ∧ s.clock = 4 ∧
      ∃ xs, Runs Cast.partners i s₀ xs s ∧ Ends i 0 false 4 xs 4 := by
  intro cast i s₀ s
  have hv : Visits Cast.partners i s₀ s :=
    (Visits.start.turn (by decide) rfl).finish (by decide) rfl
  obtain ⟨n, hn⟩ := (run_eq_some_iff (by decide)).2 ⟨hv, rfl⟩
  obtain ⟨hreturned, -⟩ := run_ends_when_told Cast.partners i 0 false (some 4) cast
  obtain ⟨t, xs, hfirst, hr, hends, -⟩ := hreturned n s hn
  have hstop : s.firstStop = some 4 := rfl
  obtain rfl : 4 = t := Option.some.inj (hstop.symm.trans hfirst)
  exact ⟨⟨n, hn⟩, hstop, rfl, xs, hr, hends⟩

end LiveTelemetry.Loop
