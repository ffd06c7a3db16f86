import Mathlib.Data.List.Chain
import LiveTelemetry.Proofs.Loop.Watch
/-!
Time in a run. Main statements: a stop from outside that is still to come is never overdue, the
exchanges follow one another, and nothing is waited for after an active ping.
-/
namespace LiveTelemetry.Loop

namespace State

/-- A stop from outside that is still to come is not overdue. -/
def Timely (s : State σ) : Prop := ∀ due, s.stopAt = some due → s.clock ≤ due

theorem opening_timely (clock : Nat) (before : Bool) (wait : Option Nat) (w : σ) :
    (opening clock before wait w).Timely := by
  intro due hd
  obtain ⟨-, -, hc, -, hs⟩ := opening_fields clock before wait w
  rw [hs, Option.map_eq_some_iff] at hd
  obtain ⟨ms, -, rfl⟩ := hd
  rw [hc]
  exact Nat.le_add_right clock ms

/-- Whoever lets time pass meets the stop from outside on the way. -/
theorem timely_of_stopBy {s t : State σ} (hs : t.stopAt =
    if s.stopBy t.clock = none then s.stopAt else none) : t.Timely := by
  intro due hd
  rw [hs] at hd
  split at hd
  · rename_i hn
    have hlt : ¬ due ≤ t.clock := by simpa [stopBy, hd] using hn
    exact Nat.le_of_not_le hlt
  · contradiction

theorem Timely.congr {s : State σ} {t : State τ} (h : s.Timely) (hc : t.clock = s.clock)
    (hs : t.stopAt = s.stopAt) : t.Timely := by
  intro due hd
  rw [hc]
  exact h due (hs ▸ hd)

theorem ask_timely (s : State σ) (c : Call) (r : Reply α) (w : σ) : (s.ask c r w).Timely := by
  obtain ⟨-, -, -, hc, -, hs, -⟩ := s.ask_fields c r w
  apply timely_of_stopBy (s := s)
  rw [hc]
  exact hs

theorem Timely.rest {s : State σ} (h : s.Timely) (wait : Option Nat) :
    (s.rest wait).Timely ∧ s.clock ≤ (s.rest wait).clock := by
  cases wait with
  | none => exact ⟨h, Nat.le_refl _⟩
  | some wait =>
    cases ht : s.told with
    | true =>
      have hr : s.rest (some wait) = s := sleep_of_told ht wait
      rw [hr]
      exact ⟨h, Nat.le_refl _⟩
    | false =>
      have hr : s.rest (some wait) = _ := sleep_of_not_told ht wait
      rw [hr]
      cases hb : s.stopBy (s.clock + min wait longestWait) with
      | none =>
        refine ⟨timely_of_stopBy (s := s) ?_, by simp⟩
        simp [hb]
      | some due =>
        have hdue : s.stopAt = some due := (Option.filter_eq_some_iff.1 hb).1
        refine ⟨?_, by simpa using h due hdue⟩
        intro later hl
        simp [hb] at hl

end State

/-- A call is answered at the end of a cycle, so nothing is overdue there. -/
theorem Exit.timely {p : Partners σ} {i : Intervals} {s t : State σ} {wait : Option Nat}
    (h : Exit p i s t wait) : t.Timely := by
  have hping : (s.pinged p).Timely := State.ask_timely _ _ _ _
  have hprepare : (s.prepared p).Timely := State.ask_timely _ _ _ _
  have hsend : ((s.prepared p).sent p).Timely := State.ask_timely _ _ _ _
  cases h with
  | pingFailed => exact hping.congr (by simp) (by simp)
  | activated => exact hping.congr (by simp) (by simp)
  | idle => exact hping.congr (by simp) (by simp)
  | prepareFailed => exact hprepare.congr (by simp) (by simp)
  | sendFailed => exact hsend.congr (by simp) (by simp)
  | posted => exact hsend.congr (by simp) (by simp)
  | deactivated => exact hsend.congr (by simp) (by simp)

theorem Visits.timely {p : Partners σ} {i : Intervals} {s₀ s : State σ} (h : Visits p i s₀ s)
    (h₀ : s₀.Timely) : s.Timely := by
  induction h with
  | start => exact h₀.congr (by simp) (by simp)
  | turn _ going _ _ =>
    obtain ⟨t, wait, he, ht⟩ := turn_exit p i going
    rw [ht]
    exact (he.timely.rest wait).1
  | finish _ _ _ ih => exact ih.congr (by simp) (by simp)

/-- Whether an exchange is a ping that has the loop send. -/
def Exchange.activates (x : Exchange) : Bool :=
  match x.deed with
  | .ping _ (.ok d) => d.isActive
  | _ => false

/-- Exchanges that follow one another and are over by the time `clock`. What comes after an active
ping comes at once. -/
structure InTime (xs : List Exchange) (clock : Nat) : Prop where
  order : xs.Pairwise fun x y => x.ended ≤ y.begun
  ended : ∀ x ∈ xs, x.begun ≤ x.ended ∧ x.ended ≤ clock
  atOnce : xs.IsChain fun x y => x.activates = true → y.begun = x.ended
  now : ∀ x ∈ xs.getLast?, x.activates = true → clock = x.ended

namespace InTime

theorem snoc {xs : List Exchange} {clock now : Nat} {x : Exchange} (h : InTime xs clock)
    (hb : x.begun = clock) (he : x.begun ≤ x.ended) (hn : x.ended ≤ now)
    (hx : x.activates = true → now = x.ended) : InTime (xs ++ [x]) now := by
  subst hb
  refine ⟨?_, ?_, ?_, ?_⟩
  · rw [List.pairwise_append]
    refine ⟨h.order, List.pairwise_singleton _ x, ?_⟩
    intro y hy z hz
    obtain rfl := List.mem_singleton.1 hz
    exact (h.ended y hy).2
  · intro y hy
    rcases List.mem_append.1 hy with hy | hy
    · obtain ⟨hy, hle⟩ := h.ended y hy
      exact ⟨hy, by omega⟩
    · obtain rfl := List.mem_singleton.1 hy
      exact ⟨he, hn⟩
  · rw [List.isChain_append]
    refine ⟨h.atOnce, List.isChain_singleton x, ?_⟩
    intro y hy z hz
    obtain rfl : x = z := by simpa using hz
    exact h.now y hy
  · intro y hy
    obtain rfl : x = y := by simpa using hy
    exact hx

theorem begun_eq {pre post : List Exchange} {x y : Exchange} {clock : Nat}
    (h : InTime (pre ++ x :: y :: post) clock) (hx : x.activates = true) : y.begun = x.ended :=
  (List.isChain_append_cons_cons.1 h.atOnce).2.1 hx

theorem ended_le {pre post : List Exchange} {x y : Exchange} {clock : Nat}
    (h : InTime (pre ++ y :: post) clock) (hx : x ∈ pre) : x.ended ≤ y.begun :=
  (List.pairwise_append.1 h.order).2.2 x hx y (by simp)

end InTime

/-- What a turn adds to the record comes after what was there. -/
theorem InTime.turn {p : Partners σ} {i : Intervals} {s : State (Watched σ)}
    (h : InTime s.partners.seen s.clock) (going : s.mode ≠ .stopped) :
    InTime (s.turn p.watched i).partners.seen (s.turn p.watched i).clock := by
  obtain ⟨t, wait, he, hturn⟩ := turn_exit p.watched i going
  rw [hturn, (t.rest_fields wait).2.2.2]
  have hrest : t.clock ≤ (t.rest wait).clock := (he.timely.rest wait).2
  have hping {now : Nat} (hn : (s.pinged p.watched).clock ≤ now)
      (hx : (s.pingExchange p.watched).activates = true → now = (s.pinged p.watched).clock) :
      InTime (s.partners.seen ++ [s.pingExchange p.watched]) now :=
    h.snoc rfl (Nat.le_add_right _ _) (by simpa [State.pingExchange] using hn)
      (by simpa [State.pingExchange] using hx)
  have hprepare {now : Nat} (hn : (s.prepared p.watched).clock ≤ now) :
      InTime (s.partners.seen ++ [s.prepareExchange p.watched]) now :=
    h.snoc rfl (Nat.le_add_right _ _) (by simpa [State.prepareExchange] using hn)
      (by simp [Exchange.activates, State.prepareExchange])
  have hsend {now : Nat} (hn : ((s.prepared p.watched).sent p.watched).clock ≤ now) :
      InTime (s.partners.seen ++ [s.prepareExchange p.watched] ++
        [(s.prepared p.watched).sendExchange p.watched]) now :=
    (hprepare (Nat.le_refl _)).snoc rfl (Nat.le_add_right _ _)
      (by simpa [State.sendExchange] using hn) (by simp [Exchange.activates, State.sendExchange])
  cases he with
  | pingFailed mode reply =>
    have hx : (s.pingExchange p.watched).activates = false := by
      simp [Exchange.activates, State.pingExchange, reply]
    simpa using hping (by simpa using hrest) (by simp [hx])
  | activated mode reply active =>
    -- The loop does not wait, so the clock still shows when the ping was over.
    simpa [State.rest] using hping (Nat.le_refl _) (fun _ => rfl)
  | idle mode reply idle =>
    have hx : (s.pingExchange p.watched).activates = false := by
      simp [Exchange.activates, State.pingExchange, reply, idle]
    simpa using hping (by simpa using hrest) (by simp [hx])
  | prepareFailed mode reply => simpa using hprepare (by simpa using hrest)
  | sendFailed mode prepared reply => simpa using hsend (by simpa using hrest)
  | posted mode prepared reply active => simpa using hsend (by simpa using hrest)
  | deactivated mode prepared reply idle => simpa using hsend (by simpa using hrest)

theorem Visits.inTime {p : Partners σ} {i : Intervals} {clock : Nat} {before : Bool}
    {wait : Option Nat} {w : σ} {s : State (Watched σ)}
    (h : Visits p.watched i ((State.opening clock before wait w).watch []) s) :
    InTime s.partners.seen s.clock := by
  induction h with
  | start => exact ⟨List.Pairwise.nil, by simp, List.isChain_nil, by simp⟩
  | turn _ going _ ih => exact ih.turn going
  | finish _ _ _ ih => simpa using ih

end LiveTelemetry.Loop
