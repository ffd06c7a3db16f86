import LiveTelemetry.Proofs.Loop.View
/-!
The record that a loop's partners can keep of a run. Main statements: partners that keep a record
change nothing else, so each state of a run comes with the exchanges that led to it.
-/
namespace LiveTelemetry.Loop

/-- A call, and what came of it. A send that goes well leaves a directive to be read. -/
inductive Deed where
  | ping (endpoint : Option String) (outcome : Except String Directive)
  | prepare (endpoint : Option String) (outcome : Except String Unit)
  | send (outcome : Except String Directive)

/-- A deed, and when it was begun and over. -/
structure Exchange where
  begun : Nat
  ended : Nat
  deed : Deed

/-- The call that began an exchange. -/
def Exchange.call (x : Exchange) : Nat × Call :=
  match x.deed with
  | .ping e _ => (x.begun, .ping e)
  | .prepare e _ => (x.begun, .prepare e)
  | .send _ => (x.begun, .send)

/-- The directive that was observed with an exchange, if any. -/
def Exchange.directive? (x : Exchange) : Option Directive :=
  match x.deed with
  | .ping _ (.ok d) => some d
  | .send (.ok d) => some d
  | _ => none

/-- Whether the last exchange was a call to prepare that went well. -/
def Prepared (xs : List Exchange) : Prop :=
  ∃ before x e, xs = before ++ [x] ∧ x.deed = .prepare e (.ok ())

@[simp] theorem not_prepared_nil : ¬ Prepared [] := by
  rintro ⟨before, x, e, h, -⟩
  simp at h

@[simp] theorem prepared_append_singleton (xs : List Exchange) (x : Exchange) :
    Prepared (xs ++ [x]) ↔ ∃ e, x.deed = .prepare e (.ok ()) := by
  constructor
  · rintro ⟨before, y, e, h, hy⟩
    obtain ⟨-, rfl⟩ : xs = before ∧ x = y := by simpa using h
    exact ⟨e, hy⟩
  · rintro ⟨e, hx⟩
    exact ⟨xs, x, e, rfl, hx⟩

/-- The parts of a list that has one more member at its end. -/
theorem snoc_eq_append_cons {α : Type} {xs pre post : List α} {x y : α}
    (h : xs ++ [x] = pre ++ y :: post) :
    (xs = pre ∧ x = y ∧ post = []) ∨ ∃ rest, post = rest ++ [x] ∧ xs = pre ++ y :: rest := by
  rcases List.append_eq_append_iff.1 h with ⟨as, rfl, hx⟩ | ⟨as, rfl, hy⟩
  · cases as with
    | nil => exact .inl (by simpa using hx)
    | cons a as => simp at hx
  · cases as with
    | nil => exact .inl (by simpa [eq_comm] using hy)
    | cons a as =>
      obtain ⟨rfl, hpost⟩ : y = a ∧ post = as ++ [x] := by simpa using hy
      exact .inr ⟨as, hpost, rfl⟩

/-- Partners with a record of the exchanges they had. -/
structure Watched (σ : Type) where
  partners : σ
  seen : List Exchange

namespace Partners

/-- The same partners, who now write down what they are asked and what they answer. -/
def watched (p : Partners σ) : Partners (Watched σ) where
  ping now endpoint w :=
    let (r, after) := p.ping now endpoint w.partners
    (r, ⟨after, w.seen ++ [⟨now, now + r.latency, .ping endpoint r.outcome⟩]⟩)
  prepare now endpoint w :=
    let (r, after) := p.prepare now endpoint w.partners
    (r, ⟨after, w.seen ++ [⟨now, now + r.latency, .prepare endpoint r.outcome⟩]⟩)
  send now w :=
    let (r, after) := p.send now w.partners
    let left := r.outcome.map fun _ => p.directive after
    (r, ⟨after, w.seen ++ [⟨now, now + r.latency, .send left⟩]⟩)
  directive w := p.directive w.partners

theorem watched_shows (p : Partners σ) : p.watched.Shows p Watched.partners :=
  ⟨fun _ _ _ => rfl, fun _ _ _ => rfl, fun _ _ => rfl, fun _ => rfl⟩

/-- Partners that show others show what these write down, too. -/
theorem Shows.watched {q : Partners τ} {p : Partners σ} {f : τ → σ} (h : q.Shows p f) :
    q.watched.Shows p.watched fun x => ⟨f x.partners, x.seen⟩ := by
  refine ⟨?_, ?_, ?_, fun x => h.directive x.partners⟩
  · intro now e x
    simp only [Partners.watched, h.ping]
  · intro now e x
    simp only [Partners.watched, h.prepare]
  · intro now x
    simp only [Partners.watched, h.send, h.directive]

end Partners

namespace State

/-- The loop with partners that have seen so much. -/
def watch (s : State σ) (seen : List Exchange) : State (Watched σ) :=
  { s with partners := ⟨s.partners, seen⟩ }

@[simp] theorem watch_fields (s : State σ) (seen : List Exchange) :
    (s.watch seen).mode = s.mode ∧ (s.watch seen).override = s.override ∧
    (s.watch seen).tally = s.tally ∧ (s.watch seen).clock = s.clock ∧
    (s.watch seen).told = s.told ∧ (s.watch seen).stopAt = s.stopAt ∧
    (s.watch seen).partners.seen = seen :=
  ⟨rfl, rfl, rfl, rfl, rfl, rfl, rfl⟩

@[simp] theorem watch_history (s : State σ) (seen : List Exchange) :
    (s.watch seen).calls = s.calls ∧ (s.watch seen).firstStop = s.firstStop ∧
    (s.watch seen).earlyCalls = s.earlyCalls ∧ (s.watch seen).lateCalls = s.lateCalls :=
  history_congr rfl

/-- The loop with partners that keep no record. -/
def unwatch (s : State (Watched σ)) : State σ := { s with partners := s.partners.partners }

/-- Partners that keep a record do not change what a turn does. -/
theorem turn_watch (p : Partners σ) (i : Intervals) (s : State σ) (xs : List Exchange) :
    (s.watch xs).turn p.watched i =
      (s.turn p i).watch ((s.watch xs).turn p.watched i).partners.seen :=
  congrArg (fun t : State σ => t.watch ((s.watch xs).turn p.watched i).partners.seen)
    (through_turn p.watched_shows i (s.watch xs))

/-- The exchange of a ping that is made now. -/
def pingExchange (p : Partners σ) (s : State σ) : Exchange where
  begun := s.clock
  ended := s.clock + (s.pingReply p).latency
  deed := .ping s.endpoint.1 (s.pingReply p).outcome

/-- The exchange of a call to prepare that is made now. -/
def prepareExchange (p : Partners σ) (s : State σ) : Exchange where
  begun := s.clock
  ended := s.clock + (s.prepareReply p).latency
  deed := .prepare s.endpoint.1 (s.prepareReply p).outcome

/-- The exchange of a send that is begun now. -/
def sendExchange (p : Partners σ) (s : State σ) : Exchange where
  begun := s.clock
  ended := s.clock + (s.sendReply p).latency
  deed := .send ((s.sendReply p).outcome.map fun _ => p.directive (s.sent p).partners)

@[simp] theorem directive?_pingExchange (p : Partners σ) (s : State σ) :
    (s.pingExchange p).directive? = (s.pingReply p).outcome.toOption := by
  unfold pingExchange Exchange.directive?
  cases (s.pingReply p).outcome <;> rfl

@[simp] theorem directive?_prepareExchange (p : Partners σ) (s : State σ) :
    (s.prepareExchange p).directive? = none :=
  rfl

@[simp] theorem directive?_sendExchange (p : Partners σ) (s : State σ) :
    (s.sendExchange p).directive? =
      (s.sendReply p).outcome.toOption.map fun _ => p.directive (s.sent p).partners := by
  unfold sendExchange Exchange.directive?
  cases (s.sendReply p).outcome <;> rfl

@[simp] theorem seen_pinged (p : Partners σ) (s : State (Watched σ)) :
    (s.pinged p.watched).partners.seen = s.partners.seen ++ [s.pingExchange p.watched] := by
  rw [pinged, askThere, (ask_fields ..).2.2.2.2.2.2]
  rfl

@[simp] theorem seen_prepared (p : Partners σ) (s : State (Watched σ)) :
    (s.prepared p.watched).partners.seen = s.partners.seen ++ [s.prepareExchange p.watched] := by
  rw [prepared, askThere, (ask_fields ..).2.2.2.2.2.2]
  rfl

@[simp] theorem seen_sent (p : Partners σ) (s : State (Watched σ)) :
    (s.sent p.watched).partners.seen = s.partners.seen ++ [s.sendExchange p.watched] := by
  rw [sendExchange, sent, (ask_fields ..).2.2.2.2.2.2]
  rfl

/-- What the partners are after a ping. -/
theorem watched_pinged (p : Partners σ) (s : State (Watched σ)) :
    (s.pinged p.watched).partners =
      ⟨(p.ping s.clock s.endpoint.1 s.partners.partners).2,
        s.partners.seen ++ [s.pingExchange p.watched]⟩ ∧
    s.pingReply p.watched = (p.ping s.clock s.endpoint.1 s.partners.partners).1 := by
  rw [pinged, askThere_partners]
  exact ⟨rfl, rfl⟩

/-- What the partners are after a call to prepare. -/
theorem watched_prepared (p : Partners σ) (s : State (Watched σ)) :
    (s.prepared p.watched).partners =
      ⟨(p.prepare s.clock s.endpoint.1 s.partners.partners).2,
        s.partners.seen ++ [s.prepareExchange p.watched]⟩ ∧
    s.prepareReply p.watched = (p.prepare s.clock s.endpoint.1 s.partners.partners).1 := by
  rw [prepared, askThere_partners]
  exact ⟨rfl, rfl⟩

/-- What the partners are after a send. -/
theorem watched_sent (p : Partners σ) (s : State (Watched σ)) :
    let (r, after) := p.send s.clock s.partners.partners
    (s.sent p.watched).partners =
      ⟨after, s.partners.seen ++ [s.sendExchange p.watched]⟩ ∧
    (s.sendExchange p.watched).deed = .send (r.outcome.map fun _ => p.directive after) := by
  have hp : p.watched.directive (s.sent p.watched).partners =
      p.directive (p.send s.clock s.partners.partners).2 := by
    rw [sent_partners]
    rfl
  have hd : (s.sendExchange p.watched).deed =
      .send ((p.send s.clock s.partners.partners).1.outcome.map fun _ =>
        p.directive (p.send s.clock s.partners.partners).2) := by
    rw [← hp]
    rfl
  refine ⟨?_, hd⟩
  rw [← seen_sent, sent_partners]
  rfl

end State

theorem Visits.unwatch {p : Partners σ} {i : Intervals} {s₀ t : State (Watched σ)}
    (h : Visits p.watched i s₀ t) : Visits p i s₀.unwatch t.unwatch :=
  h.through p.watched_shows

/-- A run from `s₀` comes to `s`, and its partners have seen the exchanges `xs` by then. -/
def Runs (p : Partners σ) (i : Intervals) (s₀ : State σ) (xs : List Exchange) (s : State σ) :
    Prop :=
  Visits p.watched i (s₀.watch []) (s.watch xs)

theorem Runs.visits {p : Partners σ} {i : Intervals} {s₀ s : State σ} {xs : List Exchange}
    (h : Runs p i s₀ xs s) : Visits p i s₀ s :=
  Visits.unwatch h

theorem Runs.start {p : Partners σ} {i : Intervals} {s₀ : State σ} :
    Runs p i s₀ [] (s₀.start i) :=
  Visits.start

theorem Runs.turn {p : Partners σ} {i : Intervals} {s₀ s : State σ} {xs ys : List Exchange}
    (h : Runs p i s₀ xs s) (going : s.mode ≠ .stopped) (free : s.told = false)
    (hseen : ((s.watch xs).turn p.watched i).partners.seen = ys) :
    Runs p i s₀ ys (s.turn p i) := by
  rw [Runs, ← hseen, ← State.turn_watch]
  exact Visits.turn h going free

/-- Every state of a run comes with a record of the exchanges that led to it. -/
theorem Visits.runs {p : Partners σ} {i : Intervals} {s₀ s : State σ} (h : Visits p i s₀ s) :
    ∃ xs, Runs p i s₀ xs s := by
  obtain ⟨t, rfl, ht⟩ := Visits.lift p.watched_shows (s₀.watch []) h
  exact ⟨t.partners.seen, ht⟩

/-- The record of a run that has returned, and the state in which it was told to stop. -/
theorem exists_runs_of_run {p : Partners σ} {i : Intervals} {s₀ s : State σ} {turns : Nat}
    (h₀ : s₀.mode ≠ .stopped) (h : s₀.run p i turns = some s) :
    ∃ xs t, Runs p i s₀ xs t ∧ t.mode ≠ .stopped ∧ t.told = true ∧ s = t.finish := by
  obtain ⟨hv, hm⟩ := (run_eq_some_iff h₀).1 ⟨turns, h⟩
  obtain ⟨t, ht, going, told, rfl⟩ := hv.exists_told h₀ hm
  obtain ⟨xs, hr⟩ := ht.runs
  exact ⟨xs, t, hr, going, told, rfl⟩

/-- What a run with some partners shows is a run with the partners shown, with the same record. -/
theorem Runs.through {q : Partners τ} {p : Partners σ} {f : τ → σ} (h : q.Shows p f)
    {i : Intervals} {t₀ t : State τ} {xs : List Exchange} (ht : Runs q i t₀ xs t) :
    Runs p i (t₀.through f) xs (t.through f) :=
  Visits.through h.watched ht

/-- A run with the partners shown is one with the partners that show them, with the same record. -/
theorem Runs.lift {q : Partners τ} {p : Partners σ} {f : τ → σ} (h : q.Shows p f)
    {i : Intervals} (t₀ : State τ) {xs : List Exchange} {s : State σ}
    (hs : Runs p i (t₀.through f) xs s) :
    ∃ t, t.through f = s ∧ Runs q i t₀ xs t := by
  obtain ⟨t, ht, hv⟩ := Visits.lift h.watched (t₀.watch []) hs
  refine ⟨t.unwatch, congrArg State.unwatch ht, ?_⟩
  have hseen : t.partners.seen = xs := congrArg (fun s => s.partners.seen) ht
  rw [← hseen]
  exact hv

end LiveTelemetry.Loop
