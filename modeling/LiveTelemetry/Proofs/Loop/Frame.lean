import LiveTelemetry.Loop.Run
/-!
What a loop's operations change and what they leave alone. Main statements: for each operation, the
fields of the loop after it, and the calls and stops that it adds to the history.
-/
namespace LiveTelemetry.Loop

namespace Entry

/-- The call that an entry records, and when it was made. -/
def call? (e : Entry) : Option (Nat × Call) :=
  match e.event with
  | .call c => some (e.time, c)
  | _ => none

def isStop (e : Entry) : Bool :=
  match e.event with
  | .stop => true
  | _ => false

theorem call?_of_isStop {e : Entry} (h : e.isStop = true) : e.call? = none := by
  unfold isStop at h
  unfold call?
  split at h
  · rename_i he
    simp [he]
  · contradiction

/-- The entries before the first stop. -/
def beforeStop (h : List Entry) : List Entry := h.takeWhile fun e => !e.isStop

/-- The entries from the first stop on. -/
def fromStop (h : List Entry) : List Entry := h.dropWhile fun e => !e.isStop

theorem split_of_none {h : List Entry} (hn : h.find? isStop = none) (e : Entry) :
    beforeStop (h ++ [e]) = h ++ (if e.isStop then [] else [e]) ∧
    fromStop (h ++ [e]) = if e.isStop then [e] else [] := by
  have hp : ∀ a ∈ h, (!a.isStop) = true := by simpa using hn
  rw [beforeStop, fromStop, List.takeWhile_append_of_pos hp, List.dropWhile_append_of_pos hp]
  cases he : e.isStop <;> simp [he]

theorem split_of_some {h : List Entry} {a : Entry} (hs : h.find? isStop = some a) (e : Entry) :
    beforeStop (h ++ [e]) = beforeStop h ∧ fromStop (h ++ [e]) = fromStop h ++ [e] := by
  obtain ⟨ha, as, bs, rfl, has⟩ := List.find?_eq_some_iff_append.1 hs
  simp [beforeStop, fromStop, List.takeWhile_append_of_pos has, List.dropWhile_append_of_pos has,
    ha]

end Entry

namespace State

/-- The calls so far, in order. -/
def calls (s : State σ) : List (Nat × Call) := s.history.filterMap Entry.call?

/-- When the loop was first told to stop. -/
def firstStop (s : State σ) : Option Nat := (s.history.find? Entry.isStop).map Entry.time

/-- The calls made before the loop was first told to stop. -/
def earlyCalls (s : State σ) : List (Nat × Call) :=
  (Entry.beforeStop s.history).filterMap Entry.call?

/-- The calls made after the loop was first told to stop. -/
def lateCalls (s : State σ) : List (Nat × Call) :=
  (Entry.fromStop s.history).filterMap Entry.call?

theorem early_append_late (s : State σ) : s.earlyCalls ++ s.lateCalls = s.calls := by
  rw [earlyCalls, lateCalls, ← List.filterMap_append, Entry.beforeStop, Entry.fromStop,
    List.takeWhile_append_dropWhile, calls]

theorem late_of_firstStop_none {s : State σ} (h : s.firstStop = none) : s.lateCalls = [] := by
  have hn : s.history.find? Entry.isStop = none := by simpa [firstStop] using h
  have hp : ∀ a ∈ s.history, (!a.isStop) = true := by simpa using hn
  have hd : Entry.fromStop (s.history ++ []) = [] := List.dropWhile_append_of_pos hp
  rw [List.append_nil] at hd
  rw [lateCalls, hd, List.filterMap_nil]

/-! Entries in the history -/

@[simp] theorem history_mark (s : State σ) (e : Event) :
    (s.mark e).history = s.history ++ [⟨s.clock, e⟩] := by
  simp [history, mark]

@[simp] theorem mark_fields (s : State σ) (e : Event) :
    (s.mark e).mode = s.mode ∧ (s.mark e).override = s.override ∧ (s.mark e).tally = s.tally ∧
    (s.mark e).clock = s.clock ∧ (s.mark e).told = s.told ∧ (s.mark e).stopAt = s.stopAt ∧
    (s.mark e).partners = s.partners :=
  ⟨rfl, rfl, rfl, rfl, rfl, rfl, rfl⟩

/-- An entry counts as early until the first stop has come, and as late from then on. -/
theorem mark_split (s : State σ) (e : Event) :
    (s.mark e).earlyCalls = s.earlyCalls ++
      (if s.firstStop = none then (Entry.call? ⟨s.clock, e⟩).toList else []) ∧
    (s.mark e).lateCalls = s.lateCalls ++
      (if s.firstStop = none then [] else (Entry.call? ⟨s.clock, e⟩).toList) := by
  have hone (a : Entry) : [a].filterMap Entry.call? = a.call?.toList := by
    cases ha : a.call? <;> simp [ha]
  rw [earlyCalls, lateCalls, history_mark]
  cases hf : s.history.find? Entry.isStop with
  | none =>
    obtain ⟨hb, ha⟩ := Entry.split_of_none hf ⟨s.clock, e⟩
    have hn : s.firstStop = none := by simp [firstStop, hf]
    have he : s.earlyCalls = s.calls := by
      rw [← early_append_late, late_of_firstStop_none hn, List.append_nil]
    rw [hb, ha, List.filterMap_append, late_of_firstStop_none hn, ← calls, he]
    cases hs : Entry.isStop ⟨s.clock, e⟩ <;> simp [hn, hone, Entry.call?_of_isStop, hs]
  | some a =>
    obtain ⟨hb, ha⟩ := Entry.split_of_some hf ⟨s.clock, e⟩
    rw [hb, ha, List.filterMap_append, hone]
    simp [firstStop, hf, earlyCalls, lateCalls]

@[simp] theorem mark_call_history (s : State σ) (c : Call) :
    (s.mark (.call c)).calls = s.calls ++ [(s.clock, c)] ∧
    (s.mark (.call c)).firstStop = s.firstStop ∧
    (s.mark (.call c)).earlyCalls =
      s.earlyCalls ++ (if s.firstStop = none then [(s.clock, c)] else []) ∧
    (s.mark (.call c)).lateCalls =
      s.lateCalls ++ (if s.firstStop = none then [] else [(s.clock, c)]) := by
  obtain ⟨he, hl⟩ := s.mark_split (.call c)
  refine ⟨?_, ?_, ?_, ?_⟩
  · simp [calls, Entry.call?]
  · simp [firstStop, Entry.isStop]
  · simpa [Entry.call?] using he
  · simpa [Entry.call?] using hl

@[simp] theorem note_fields (s : State σ) (n : Notice) :
    (s.note n).mode = s.mode ∧ (s.note n).override = s.override ∧ (s.note n).tally = s.tally ∧
    (s.note n).clock = s.clock ∧ (s.note n).told = s.told ∧ (s.note n).stopAt = s.stopAt ∧
    (s.note n).partners = s.partners := by
  simp [note]

@[simp] theorem note_history (s : State σ) (n : Notice) :
    (s.note n).calls = s.calls ∧ (s.note n).firstStop = s.firstStop ∧
    (s.note n).earlyCalls = s.earlyCalls ∧ (s.note n).lateCalls = s.lateCalls := by
  obtain ⟨he, hl⟩ := s.mark_split (.notice n)
  refine ⟨?_, ?_, ?_, ?_⟩
  · simp [note, calls, Entry.call?]
  · simp [note, firstStop, Entry.isStop]
  · simpa [note, Entry.call?] using he
  · simpa [note, Entry.call?] using hl

@[simp] theorem notes_fields (ns : List Notice) (s : State σ) :
    (ns.foldl note s).mode = s.mode ∧ (ns.foldl note s).override = s.override ∧
    (ns.foldl note s).tally = s.tally ∧ (ns.foldl note s).clock = s.clock ∧
    (ns.foldl note s).told = s.told ∧ (ns.foldl note s).stopAt = s.stopAt ∧
    (ns.foldl note s).partners = s.partners := by
  induction ns generalizing s with
  | nil => simp
  | cons n ns ih => simp [ih]

theorem notes_past (ns : List Notice) (s : State σ) :
    (ns.foldl note s).past =
      (ns.map fun n => (⟨s.clock, .notice n⟩ : Entry)).reverse ++ s.past := by
  induction ns generalizing s with
  | nil => rfl
  | cons n ns ih => simp [ih, note, mark]

@[simp] theorem notes_history (ns : List Notice) (s : State σ) :
    (ns.foldl note s).calls = s.calls ∧ (ns.foldl note s).firstStop = s.firstStop ∧
    (ns.foldl note s).earlyCalls = s.earlyCalls ∧ (ns.foldl note s).lateCalls = s.lateCalls := by
  induction ns generalizing s with
  | nil => simp
  | cons n ns ih => simp [ih]

/-- What is read off the history depends on nothing else. -/
theorem history_congr {s : State σ} {t : State τ} (h : s.past = t.past) :
    s.calls = t.calls ∧ s.firstStop = t.firstStop ∧
    s.earlyCalls = t.earlyCalls ∧ s.lateCalls = t.lateCalls := by
  simp only [calls, firstStop, earlyCalls, lateCalls, history, h, and_self]

/-! Stops -/

@[simp] theorem tell_fields (s : State σ) :
    s.tell.mode = s.mode ∧ s.tell.override = s.override ∧ s.tell.tally = s.tally ∧
    s.tell.clock = s.clock ∧ s.tell.told = true ∧ s.tell.stopAt = s.stopAt ∧
    s.tell.partners = s.partners :=
  ⟨rfl, rfl, rfl, rfl, rfl, rfl, rfl⟩

@[simp] theorem tell_history (s : State σ) :
    s.tell.calls = s.calls ∧ s.tell.firstStop = some (s.firstStop.getD s.clock) ∧
    s.tell.earlyCalls = s.earlyCalls ∧ s.tell.lateCalls = s.lateCalls := by
  have ht : s.tell.past = (s.mark .stop).past := rfl
  obtain ⟨hc, hf, he, hl⟩ := history_congr ht
  obtain ⟨hse, hsl⟩ := s.mark_split .stop
  rw [hc, hf, he, hl, hse, hsl]
  refine ⟨?_, ?_, ?_, ?_⟩
  · simp [calls, Entry.call?]
  · cases hs : s.history.find? Entry.isStop <;> simp [firstStop, hs, Entry.isStop]
  · simp [Entry.call?]
  · simp [Entry.call?]

/-- The stop from outside, if it comes by `t`. -/
def stopBy (s : State σ) (t : Nat) : Option Nat := s.stopAt.filter (· ≤ t)

@[simp] theorem pass_fields (s : State σ) (t : Nat) :
    (s.pass t).mode = s.mode ∧ (s.pass t).override = s.override ∧ (s.pass t).tally = s.tally ∧
    (s.pass t).clock = t ∧ (s.pass t).told = (s.told || (s.stopBy t).isSome) ∧
    (s.pass t).stopAt = (if s.stopBy t = none then s.stopAt else none) ∧
    (s.pass t).partners = s.partners := by
  unfold pass stopBy
  cases hd : s.stopAt with
  | none => simp
  | some due => by_cases hle : due ≤ t <;> simp [hle, tellAt, Option.filter]

@[simp] theorem pass_history (s : State σ) (t : Nat) :
    (s.pass t).calls = s.calls ∧ (s.pass t).firstStop = s.firstStop.or (s.stopBy t) ∧
    (s.pass t).earlyCalls = s.earlyCalls ∧ (s.pass t).lateCalls = s.lateCalls := by
  cases hd : s.stopBy t with
  | none =>
    have hp : (s.pass t).past = s.past := by
      unfold pass
      cases hs : s.stopAt with
      | none => rfl
      | some due =>
        have hle : ¬ due ≤ t := by simpa [stopBy, hs] using hd
        simp [hle]
    simpa using history_congr hp
  | some due =>
    obtain ⟨hs, hle⟩ := Option.filter_eq_some_iff.1 hd
    have hp : (s.pass t).past = ({ s with clock := due } : State σ).tell.past := by
      simp [pass, hs, of_decide_eq_true hle, tellAt, tell, mark]
    obtain ⟨hc, hf, he, hl⟩ := history_congr hp
    obtain ⟨hc', hf', he', hl'⟩ := history_congr (s := { s with clock := due }) (t := s) rfl
    rw [hc, hf, he, hl]
    simp [hc', hf', he', hl']

/-! Waits and calls -/

theorem sleep_of_told {s : State σ} (h : s.told = true) (wait : Nat) : s.sleep wait = s := by
  simp [sleep, h]

/-- A wait is over when its time is up, or earlier with the stop from outside. -/
theorem sleep_of_not_told {s : State σ} (h : s.told = false) (wait : Nat) :
    s.sleep wait =
      { s.pass (s.clock + min wait longestWait) with
        clock := (s.stopBy (s.clock + min wait longestWait)).getD
          (s.clock + min wait longestWait) } := by
  unfold sleep pass stopBy
  simp only [h, Bool.false_eq_true, ↓reduceIte]
  cases hd : s.stopAt with
  | none => simp
  | some due =>
    by_cases hle : due ≤ s.clock + min wait longestWait <;>
      simp [hle, tellAt, tell, mark, Option.filter]

@[simp] theorem sleep_fields (s : State σ) (wait : Nat) :
    (s.sleep wait).mode = s.mode ∧ (s.sleep wait).override = s.override ∧
    (s.sleep wait).tally = s.tally ∧ (s.sleep wait).partners = s.partners := by
  cases h : s.told with
  | true => simp [sleep_of_told h]
  | false => simp [sleep_of_not_told h]

@[simp] theorem sleep_history (s : State σ) (wait : Nat) :
    (s.sleep wait).calls = s.calls ∧ (s.sleep wait).earlyCalls = s.earlyCalls ∧
    (s.sleep wait).lateCalls = s.lateCalls := by
  cases h : s.told with
  | true => simp [sleep_of_told h]
  | false =>
    have hp : (s.sleep wait).past = (s.pass (s.clock + min wait longestWait)).past := by
      rw [sleep_of_not_told h]
    obtain ⟨hc, -, he, hl⟩ := history_congr hp
    simp [hc, he, hl]

@[simp] theorem ask_fields (s : State σ) (c : Call) (r : Reply α) (w : σ) :
    (s.ask c r w).mode = s.mode ∧ (s.ask c r w).override = s.override ∧
    (s.ask c r w).tally = s.tally ∧ (s.ask c r w).clock = s.clock + r.latency ∧
    (s.ask c r w).told = (s.told || r.stops || (s.stopBy (s.clock + r.latency)).isSome) ∧
    (s.ask c r w).stopAt =
      (if s.stopBy (s.clock + r.latency) = none then s.stopAt else none) ∧
    (s.ask c r w).partners = w := by
  cases hr : r.stops <;> simp [ask, hr, stopBy]

/-- A call stands in the history before any stop that comes while it is under way. -/
@[simp] theorem ask_history (s : State σ) (c : Call) (r : Reply α) (w : σ) :
    (s.ask c r w).calls = s.calls ++ [(s.clock, c)] ∧
    (s.ask c r w).firstStop = s.firstStop.or
      (if r.stops then some s.clock else s.stopBy (s.clock + r.latency)) ∧
    (s.ask c r w).earlyCalls =
      s.earlyCalls ++ (if s.firstStop = none then [(s.clock, c)] else []) ∧
    (s.ask c r w).lateCalls =
      s.lateCalls ++ (if s.firstStop = none then [] else [(s.clock, c)]) := by
  let m := if r.stops then (s.mark (.call c)).tell else s.mark (.call c)
  have hm : m.clock = s.clock := by
    simp only [m]
    split <;> rfl
  have hp : (s.ask c r w).past = (r.notices.foldl note (m.pass (s.clock + r.latency))).past := by
    rw [ask, notes_past, notes_past, ← hm]
  obtain ⟨hc, hf, he, hl⟩ := history_congr hp
  rw [hc, hf, he, hl]
  cases hr : r.stops <;> simp [m, hr, stopBy]

/-! Endpoints -/

@[simp] theorem endpoint_fields (s : State σ) :
    s.endpoint.2.mode = s.mode ∧
    s.endpoint.2.override = (Override.current s.override s.clock).1 ∧
    s.endpoint.2.tally = s.tally ∧ s.endpoint.2.clock = s.clock ∧ s.endpoint.2.told = s.told ∧
    s.endpoint.2.stopAt = s.stopAt ∧ s.endpoint.2.partners = s.partners := by
  cases hc : (Override.current s.override s.clock).2 <;> simp [endpoint, hc]

@[simp] theorem endpoint_history (s : State σ) :
    s.endpoint.2.calls = s.calls ∧ s.endpoint.2.firstStop = s.firstStop ∧
    s.endpoint.2.earlyCalls = s.earlyCalls ∧ s.endpoint.2.lateCalls = s.lateCalls := by
  cases hc : (Override.current s.override s.clock).2 with
  | none =>
    have hp : s.endpoint.2.past = s.past := by simp [endpoint, hc]
    exact history_congr hp
  | some c =>
    have hp : s.endpoint.2.past = (s.note (.override c)).past := by
      simp [endpoint, hc, note, mark]
    simpa using history_congr hp

@[simp] theorem receive_fields (s : State σ) (d : Directive) :
    (s.receive d).mode = s.mode ∧
    (s.receive d).override = (Override.apply s.override d s.clock).1 ∧
    (s.receive d).clock = s.clock ∧ (s.receive d).told = s.told ∧
    (s.receive d).stopAt = s.stopAt ∧ (s.receive d).partners = s.partners := by
  cases hc : (Override.apply s.override d s.clock).2 <;> simp [receive, hc]

@[simp] theorem receive_history (s : State σ) (d : Directive) :
    (s.receive d).calls = s.calls ∧ (s.receive d).firstStop = s.firstStop ∧
    (s.receive d).earlyCalls = s.earlyCalls ∧ (s.receive d).lateCalls = s.lateCalls := by
  cases hc : (Override.apply s.override d s.clock).2 with
  | none =>
    have hp : (s.receive d).past = s.past := by simp [receive, hc]
    exact history_congr hp
  | some c =>
    have hp : (s.receive d).past = (s.note (.override c)).past := by
      simp [receive, hc, note, mark]
    simpa using history_congr hp

/-! Counters and modes -/

/-- What is read off the history of a loop that was changed elsewhere. -/
@[simp] theorem mk_history (s : State τ) (mode : Mode) (override : Option Override)
    (tally : CycleTally) (clock : Nat) (told : Bool) (stopAt : Option Nat) (w : σ) :
    (mk mode override tally clock told stopAt w s.past).calls = s.calls ∧
    (mk mode override tally clock told stopAt w s.past).firstStop = s.firstStop ∧
    (mk mode override tally clock told stopAt w s.past).earlyCalls = s.earlyCalls ∧
    (mk mode override tally clock told stopAt w s.past).lateCalls = s.lateCalls :=
  history_congr rfl

attribute [simp] countPing countPost countFailure activate deactivate start finish

end State

end LiveTelemetry.Loop
