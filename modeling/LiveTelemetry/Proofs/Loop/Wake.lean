import LiveTelemetry.Loop.Signal
import LiveTelemetry.Proofs.Loop.Clock
/-!
How the word to stop gets to a loop that waits, whatever the order of the steps. Main statements:
a wait that ends as whole has lasted, no wait goes on for its timer once the loop is told and woken,
and to tell the loop more than once is to tell it once. The wait of the loop's own runs is one of
those shown here.
-/
namespace LiveTelemetry.Loop

namespace Signal

/-- What the moves do, each in the cases that it has. -/
inductive Leads (s : Signal) : Move → Signal → Prop where
  | pass (ms : Nat) : Leads s (.pass ms) { s with clock := s.clock + ms }
  | set (free : s.told = false) : Leads s .set { s with told := true, waking := true }
  | setAgain (told : s.told = true) : Leads s .set { s with tellers := s.tellers + 1 }
  | wake {due : Nat} {expired : Bool} (waking : s.waking = true)
      (wait : s.wait = .listening due expired false) :
      Leads s .wake { s with
        waking := false, tellers := s.tellers + 1, wait := .listening due expired true }
  | keep (waking : s.waking = true) (wait : ∀ due expired, s.wait ≠ .listening due expired false) :
      Leads s .wake { s with waking := false, tellers := s.tellers + 1, kept := true }
  | enter (span : Nat) (rests : s.wait.isUnderWay = false) :
      Leads s (.enter span) { s with since := s.clock, span := span, wait := .begun }
  | giveUp (wait : s.wait = .begun) (told : s.told = true) :
      Leads s .look { s with wait := .ended false }
  | goOn (wait : s.wait = .begun) (free : s.told = false) :
      Leads s .look { s with wait := .cleared }
  | listen (wait : s.wait = .cleared) : Leads s .listen s.listen
  | expire {due : Nat} {woken : Bool} (wait : s.wait = .listening due false woken)
      (late : due ≤ s.clock) : Leads s .expire { s with wait := .listening due true woken }
  | runOut {due : Nat} {woken : Bool} (wait : s.wait = .listening due true woken) :
      Leads s .runOut { s with kept := s.kept || woken, wait := .ranOut }
  | lookAgain (wait : s.wait = .ranOut) : Leads s .lookAgain { s with wait := .ended (!s.told) }
  | heed {due : Nat} {expired : Bool} (wait : s.wait = .listening due expired true) :
      Leads s .heed { s with wait := .ended false }

theorem leads_of_step {s t : Signal} {m : Move} (h : s.step m = some t) : Leads s m t := by
  cases m with
  | pass ms =>
    obtain rfl := Option.some.inj h
    exact .pass ms
  | set =>
    obtain rfl := Option.some.inj h
    unfold Signal.set
    split
    · rename_i told
      exact .setAgain told
    · rename_i free
      exact .set (Bool.eq_false_iff.2 free)
  | wake =>
    simp only [step] at h
    split at h
    · rename_i waking
      obtain rfl := Option.some.inj h
      unfold Signal.wake
      dsimp only
      split
      · rename_i wait
        exact .wake waking wait
      · rename_i wait
        exact .keep waking wait
    · contradiction
  | enter span =>
    simp only [step] at h
    split at h
    · contradiction
    · rename_i rests
      obtain rfl := Option.some.inj h
      exact .enter span (by simpa using rests)
  | look =>
    simp only [step] at h
    split at h
    · rename_i wait
      obtain rfl := Option.some.inj h
      split
      · rename_i told
        exact .giveUp wait told
      · rename_i free
        exact .goOn wait (Bool.eq_false_iff.2 free)
    · contradiction
  | listen =>
    simp only [step] at h
    split at h
    · rename_i wait
      obtain rfl := Option.some.inj h
      exact .listen wait
    · contradiction
  | expire =>
    simp only [step] at h
    split at h
    · rename_i wait
      split at h
      · rename_i late
        obtain rfl := Option.some.inj h
        exact .expire wait late
      · contradiction
    · contradiction
  | runOut =>
    simp only [step] at h
    split at h
    · rename_i wait
      obtain rfl := Option.some.inj h
      exact .runOut wait
    · contradiction
  | lookAgain =>
    simp only [step] at h
    split at h
    · rename_i wait
      obtain rfl := Option.some.inj h
      exact .lookAgain wait
    · contradiction
  | heed =>
    simp only [step] at h
    split at h
    · rename_i wait
      obtain rfl := Option.some.inj h
      exact .heed wait
    · contradiction

/-- What a signal knows of having been told. -/
structure Heard (s : Signal) : Prop where
  waking : s.waking = true → s.told = true
  kept : s.kept = true → s.told = true
  tellers : 0 < s.tellers → s.told = true
  woken : ∀ due expired, s.wait = .listening due expired true → s.told = true
  /-- Once the loop has been woken, a wait that listens, or is about to, finds that out. -/
  delivered : s.told = true → s.waking = false →
    (s.wait = .cleared → s.kept = true) ∧
    ∀ due expired woken, s.wait = .listening due expired woken → woken = true

theorem Heard.fresh : fresh.Heard := by
  constructor <;> simp [Signal.fresh]

theorem Heard.leads {s t : Signal} {m : Move} (h : s.Heard) (hs : Leads s m t) : t.Heard := by
  obtain ⟨hwaking, hkept, htellers, hwoken, hdelivered⟩ := h
  cases hs with
  | pass ms => exact ⟨hwaking, hkept, htellers, hwoken, hdelivered⟩
  | set free => exact ⟨fun _ => rfl, fun _ => rfl, fun _ => rfl, fun _ _ _ => rfl, by simp⟩
  | setAgain told => exact ⟨hwaking, hkept, fun _ => told, hwoken, hdelivered⟩
  | wake waking wait =>
    have told := hwaking waking
    exact ⟨fun _ => told, fun _ => told, fun _ => told, fun _ _ _ => told, by simp⟩
  | keep waking wait =>
    have told := hwaking waking
    refine ⟨fun _ => told, fun _ => told, fun _ => told, fun _ _ _ => told, ?_⟩
    intro _ _
    refine ⟨fun _ => rfl, ?_⟩
    intro due expired woken hw
    cases woken with
    | true => rfl
    | false => exact absurd hw (wait due expired)
  | enter span rests => exact ⟨hwaking, hkept, htellers, by simp, by simp⟩
  | giveUp wait told => exact ⟨hwaking, hkept, htellers, by simp, by simp⟩
  | goOn wait free =>
    refine ⟨hwaking, hkept, htellers, by simp, ?_⟩
    intro told
    have hfree : s.told = true := told
    rw [free] at hfree
    contradiction
  | listen wait =>
    -- A wake-up that was kept is what the wait is woken by.
    have hback (told : s.told = true) (waking : s.waking = false) : s.kept = true :=
      (hdelivered told waking).1 wait
    refine ⟨hwaking, by simp [Signal.listen], htellers, ?_, ?_⟩
    · simpa [Signal.listen] using hkept
    · simpa [Signal.listen] using hback
  | expire wait late =>
    refine ⟨hwaking, hkept, htellers, ?_, ?_⟩
    · rintro due expired hw
      obtain ⟨-, -, rfl⟩ := Wait.listening.inj hw
      exact hwoken _ _ wait
    · intro told waking
      refine ⟨by simp, ?_⟩
      rintro due expired woken hw
      obtain ⟨-, -, rfl⟩ := Wait.listening.inj hw
      exact (hdelivered told waking).2 _ _ _ wait
  | @runOut due woken wait =>
    refine ⟨hwaking, ?_, htellers, by simp, by simp⟩
    intro hk
    cases woken with
    | true => exact hwoken _ _ wait
    | false => exact hkept (by simpa using hk)
  | lookAgain wait => exact ⟨hwaking, hkept, htellers, by simp, by simp⟩
  | heed wait => exact ⟨hwaking, hkept, htellers, by simp, by simp⟩

/-- What a signal knows of the time. -/
structure Timed (s : Signal) : Prop where
  begun : s.wait.isUnderWay = true → s.since ≤ s.clock
  due : ∀ due expired woken, s.wait = .listening due expired woken →
    s.since + min s.span longestWait ≤ due ∧ (expired = true → due ≤ s.clock)
  ranOut : s.wait = .ranOut → s.since + min s.span longestWait ≤ s.clock

theorem Timed.fresh : fresh.Timed := by
  constructor <;> simp [Signal.fresh, Wait.isUnderWay]

theorem Timed.leads {s t : Signal} {m : Move} (h : s.Timed) (hs : Leads s m t) : t.Timed := by
  obtain ⟨hbegun, hdue, hran⟩ := h
  cases hs with
  | pass ms =>
    refine ⟨fun hw => Nat.le_add_right_of_le (hbegun hw), ?_, ?_⟩
    · intro due expired woken hw
      obtain ⟨hspan, hlate⟩ := hdue due expired woken hw
      exact ⟨hspan, fun he => Nat.le_add_right_of_le (hlate he)⟩
    · exact fun hw => Nat.le_add_right_of_le (hran hw)
  | set free => exact ⟨hbegun, hdue, hran⟩
  | setAgain told => exact ⟨hbegun, hdue, hran⟩
  | wake waking wait =>
    refine ⟨fun _ => hbegun (by simp [wait, Wait.isUnderWay]), ?_, by simp⟩
    intro due expired woken hw
    obtain ⟨rfl, rfl, -⟩ := Wait.listening.inj hw
    exact hdue _ _ _ wait
  | keep waking wait => exact ⟨hbegun, hdue, hran⟩
  | enter span rests => exact ⟨fun _ => Nat.le_refl _, by simp, by simp⟩
  | giveUp wait told => exact ⟨by simp [Wait.isUnderWay], by simp, by simp⟩
  | goOn wait free =>
    exact ⟨fun _ => hbegun (by simp [wait, Wait.isUnderWay]), by simp, by simp⟩
  | listen wait =>
    have hsince : s.since ≤ s.clock := hbegun (by simp [wait, Wait.isUnderWay])
    refine ⟨fun _ => hsince, ?_, by simp [Signal.listen]⟩
    rintro due expired woken hw
    obtain ⟨rfl, rfl, -⟩ := Wait.listening.inj hw
    exact ⟨Nat.add_le_add_right hsince _, by simp⟩
  | expire wait late =>
    refine ⟨fun _ => hbegun (by simp [wait, Wait.isUnderWay]), ?_, by simp⟩
    rintro due expired woken hw
    obtain ⟨rfl, -, -⟩ := Wait.listening.inj hw
    exact ⟨(hdue _ _ _ wait).1, fun _ => late⟩
  | runOut wait =>
    obtain ⟨hspan, hlate⟩ := hdue _ _ _ wait
    refine ⟨fun _ => hbegun (by simp [wait, Wait.isUnderWay]), by simp, ?_⟩
    exact fun _ => Nat.le_trans hspan (hlate rfl)
  | lookAgain wait => exact ⟨by simp [Wait.isUnderWay], by simp, by simp⟩
  | heed wait => exact ⟨by simp [Wait.isUnderWay], by simp, by simp⟩

/-- What every move keeps, a run keeps. -/
theorem run_keeps {P : Signal → Prop} (keeps : ∀ {s t m}, P s → Leads s m t → P t)
    {ms : List Move} {s t : Signal} (hs : P s) (h : run ms s = some t) : P t := by
  induction ms generalizing s with
  | nil =>
    obtain rfl := Option.some.inj h
    exact hs
  | cons m ms ih =>
    obtain ⟨u, hu, h⟩ := Option.bind_eq_some_iff.1 h
    exact ih (keeps hs (leads_of_step hu)) h

theorem Leads.told {s t : Signal} {m : Move} (h : Leads s m t) (told : s.told = true) :
    t.told = true := by
  cases h <;> first | rfl | exact told

/-- A wait that ends as whole found the flag not set when its time was over. -/
theorem Leads.ended_true {s t : Signal} {m : Move} (h : Leads s m t) (hs : s.wait ≠ .ended true)
    (ht : t.wait = .ended true) : s.wait = .ranOut ∧ s.told = false := by
  cases h with
  | lookAgain wait => exact ⟨wait, by simpa using ht⟩
  | pass | set | setAgain | keep => exact absurd ht hs
  | wake | enter | giveUp | goOn | listen | expire | runOut | heed =>
    simp [Signal.listen] at ht

/-- A wait that ends early found the flag set, or was woken. -/
theorem Leads.ended_false {s t : Signal} {m : Move} (h : Leads s m t) (heard : s.Heard)
    (hs : s.wait ≠ .ended false) (ht : t.wait = .ended false) : s.told = true := by
  cases h with
  | giveUp wait told => exact told
  | lookAgain wait => simpa using ht
  | heed wait => exact heard.woken _ _ wait
  | pass | set | setAgain | keep => exact absurd ht hs
  | wake | enter | goOn | listen | expire | runOut => simp [Signal.listen] at ht

/-- Once the flag is set, no wait finds it not set. -/
theorem Leads.isCleared {s t : Signal} {m : Move} (h : Leads s m t) (told : s.told = true)
    (hs : s.wait.isCleared = false) : t.wait.isCleared = false := by
  cases h with
  | pass | set | setAgain | keep => exact hs
  | enter | giveUp | lookAgain | heed => rfl
  | goOn wait free =>
    rw [told] at free
    contradiction
  | wake _ wait | listen wait | expire wait | runOut wait => simp [wait, Wait.isCleared] at hs

theorem run_isCleared {ms : List Move} {s t : Signal} (h : run ms s = some t)
    (told : s.told = true) (hs : s.wait.isCleared = false) : t.wait.isCleared = false := by
  have hback := run_keeps (P := fun s => s.told = true ∧ s.wait.isCleared = false)
    (fun hs hm => ⟨hm.told hs.1, hm.isCleared hs.1 hs.2⟩) ⟨told, hs⟩ h
  exact hback.2

end Signal

/-- How many prompt moves a wait may still need, once the flag is set. -/
def Wait.rank : Wait → Nat
  | idle | ended _ => 0
  | begun | ranOut => 1
  | listening _ _ _ => 2
  | cleared => 3

namespace Signal

/-- How many prompt moves may still be made, once the flag is set, before a wait begins. -/
def rank (s : Signal) : Nat := s.wait.rank + s.waking.toNat

theorem rank_le (s : Signal) : s.rank ≤ 4 := by
  have hwait : s.wait.rank ≤ 3 := by
    cases s.wait <;> simp [Wait.rank]
  have hwaking : s.waking.toNat ≤ 1 := Bool.toNat_le _
  unfold rank
  omega

theorem Leads.rank_lt {s t : Signal} {m : Move} (h : Leads s m t) (told : s.told = true)
    (prompt : m.isPrompt = true) : t.rank < s.rank := by
  cases h with
  | pass | set | setAgain | enter | expire => contradiction
  | goOn wait free =>
    rw [told] at free
    contradiction
  | keep waking wait => simp [rank, waking]
  | wake waking wait => simp [rank, Wait.rank, waking, wait]
  | giveUp wait | listen wait | runOut wait | lookAgain wait | heed wait =>
    simp [rank, Wait.rank, wait, Signal.listen]

/-- Once the flag is set, only so many prompt moves can be made in a row. -/
theorem length_le_rank {ms : List Move} {s t : Signal} (h : run ms s = some t)
    (told : s.told = true) (prompt : ∀ m ∈ ms, m.isPrompt = true) :
    ms.length + t.rank ≤ s.rank := by
  induction ms generalizing s with
  | nil =>
    obtain rfl := Option.some.inj h
    simp
  | cons m ms ih =>
    obtain ⟨u, hu, h⟩ := Option.bind_eq_some_iff.1 h
    obtain ⟨hm, hms⟩ := List.forall_mem_cons.1 prompt
    have hstep := leads_of_step hu
    have hlt : u.rank < s.rank := hstep.rank_lt told hm
    have hrest : ms.length + t.rank ≤ u.rank := ih h (hstep.told told) hms
    rw [List.length_cons]
    omega

/-- Once the flag is set, a wait that is under way is held up by nothing. -/
theorem Heard.prompt {s : Signal} (h : s.Heard) (told : s.told = true)
    (way : s.wait.isUnderWay = true) :
    ∃ m t, m.isPrompt = true ∧ s.step m = some t := by
  cases hw : s.wait with
  | idle => simp [hw, Wait.isUnderWay] at way
  | ended full => simp [hw, Wait.isUnderWay] at way
  | begun => exact ⟨.look, { s with wait := .ended false }, rfl, by simp [step, hw, told]⟩
  | cleared => exact ⟨.listen, s.listen, rfl, by simp [step, hw]⟩
  | ranOut => exact ⟨.lookAgain, { s with wait := .ended (!s.told) }, rfl, by simp [step, hw]⟩
  | listening due expired woken =>
    cases hk : s.waking with
    | true => exact ⟨.wake, s.wake, rfl, by simp [step, hk]⟩
    | false =>
      obtain rfl : woken = true := (h.delivered told hk).2 _ _ _ hw
      exact ⟨.heed, { s with wait := .ended false }, rfl, by simp [step, hw]⟩

/-- The moves without those that set the flag, but for the first. -/
def single : List Move → List Move
  | [] => []
  | .set :: ms => .set :: ms.filter (· != .set)
  | m :: ms => m :: single ms

/-- A signal that does not count who told the loop. -/
def forget (s : Signal) : Signal := { s with tellers := 0 }

/-- No move looks at how many have told the loop. -/
theorem step_forget (s : Signal) (m : Move) :
    (s.forget.step m).map forget = (s.step m).map forget := by
  obtain ⟨told, waking, kept, tellers, clock, since, span, wait⟩ := s
  cases m with
  | pass ms => rfl
  | set => cases told <;> rfl
  | wake =>
    cases waking with
    | false => rfl
    | true =>
      cases wait with
      | listening due expired woken => cases woken <;> rfl
      | _ => rfl
  | expire =>
    cases wait with
    | listening due expired woken =>
      cases expired with
      | true => rfl
      | false => by_cases late : due ≤ clock <;> simp [step, forget, late]
    | _ => rfl
  | runOut =>
    cases wait with
    | listening due expired woken => cases expired <;> rfl
    | _ => rfl
  | heed =>
    cases wait with
    | listening due expired woken => cases woken <;> rfl
    | _ => rfl
  | enter | look | listen | lookAgain => cases wait <;> rfl

theorem step_congr {s t : Signal} (h : s.forget = t.forget) (m : Move) :
    (s.step m).map forget = (t.step m).map forget := by
  rw [← step_forget s, ← step_forget t, h]

theorem run_congr {s t : Signal} (h : s.forget = t.forget) (ms : List Move) :
    (run ms s).map forget = (run ms t).map forget := by
  induction ms generalizing s t with
  | nil => exact congrArg some h
  | cons m ms ih =>
    have hstep := step_congr h m
    simp only [run]
    cases hs : s.step m with
    | none =>
      rw [hs, Option.map_none, eq_comm, Option.map_eq_none_iff] at hstep
      rw [hstep]
    | some u =>
      rw [hs, Option.map_some, eq_comm, Option.map_eq_some_iff] at hstep
      obtain ⟨v, hv, hforget⟩ := hstep
      rw [hv]
      exact ih hforget.symm

/-- A run from a state that a move leads to differs from another by who is counted alone. -/
theorem run_cons_congr {s : Signal} {m : Move} {ms ns : List Move}
    (h : ∀ t, Leads s m t → (run ms t).map forget = (run ns t).map forget) :
    (run (m :: ms) s).map forget = (run (m :: ns) s).map forget := by
  simp only [run]
  cases hs : s.step m with
  | none => rfl
  | some t => exact h t (leads_of_step hs)

/-- Once the flag is set, it makes no difference who else sets it. -/
theorem run_filter {s : Signal} (told : s.told = true) (ms : List Move) :
    (run ms s).map forget = (run (ms.filter (· != .set)) s).map forget := by
  induction ms generalizing s with
  | nil => rfl
  | cons m ms ih =>
    by_cases hm : m = .set
    · subst hm
      have hset : s.step .set = some { s with tellers := s.tellers + 1 } := by
        simp [step, Signal.set, told]
      have hforget : forget { s with tellers := s.tellers + 1 } = s.forget := rfl
      calc (run (.set :: ms) s).map forget
          = (run ms { s with tellers := s.tellers + 1 }).map forget := by simp [run, hset]
        _ = (run ms s).map forget := run_congr hforget ms
        _ = (run (ms.filter (· != .set)) s).map forget := ih told
        _ = (run ((Move.set :: ms).filter (· != .set)) s).map forget := by simp
    · rw [List.filter_cons_of_pos (by simpa using hm)]
      exact run_cons_congr fun t ht => ih (ht.told told)

/-- To tell the loop more than once is to tell it once. -/
theorem run_single (ms : List Move) (s : Signal) :
    (run ms s).map forget = (run (single ms) s).map forget := by
  induction ms generalizing s with
  | nil => rfl
  | cons m ms ih =>
    cases m with
    | set =>
      refine run_cons_congr fun t ht => run_filter ?_ ms
      cases ht with
      | set free => rfl
      | setAgain told => exact told
    | pass | wake | enter | look | listen | expire | runOut | lookAgain | heed =>
      exact run_cons_congr fun t _ => ih t

/-- What holds of a signal where some moves have led. -/
structure Obeys (ms : List Move) (s : Signal) : Prop where
  /-- A wait that ends as whole has lasted its time, if not longer than any wait lasts, and found
  the flag not set then. -/
  full : ∀ m t, s.step m = some t → s.wait ≠ .ended true → t.wait = .ended true →
    s.told = false ∧ s.since + min s.span longestWait ≤ s.clock
  /-- A wait that ends early does so for somebody who set the flag. -/
  early : ∀ m t, s.step m = some t → s.wait ≠ .ended false → t.wait = .ended false → s.told = true
  told : 0 < s.tellers → s.told = true
  /-- Once who set the flag is done, no wait is held up by its timer alone. -/
  released : 0 < s.tellers → s.waking = false → s.needsTimer = false
  /-- Once somebody is done, a wait that begins finds the flag set. -/
  barred : 0 < s.tellers → s.wait.isCleared = false →
    ∀ later t, run later s = some t → t.wait.isCleared = false
  /-- Once somebody is done, a wait goes on as long as it is under way, without its timer or that
  any time need pass, and is over after so many moves. -/
  brief : 0 < s.tellers → ∀ prompt t, (∀ m ∈ prompt, m.isPrompt = true) →
    run prompt s = some t → prompt.length ≤ 4 ∧
      (t.wait.isUnderWay = true → ∃ m u, m.isPrompt = true ∧ t.step m = some u)
  /-- Who finds the flag set changes nothing. -/
  once : (run (single ms) fresh).map forget = some s.forget

/-- Whatever the order of the steps, a wait and those who tell the loop work together. -/
theorem obeys_of_run {ms : List Move} {s : Signal} (h : run ms fresh = some s) : Obeys ms s := by
  have heard : s.Heard := run_keeps Heard.leads Heard.fresh h
  have timed : s.Timed := run_keeps Timed.leads Timed.fresh h
  refine ⟨?_, ?_, heard.tellers, ?_, ?_, ?_, ?_⟩
  · intro m t hm hs ht
    obtain ⟨hran, free⟩ := (leads_of_step hm).ended_true hs ht
    exact ⟨free, timed.ranOut hran⟩
  · intro m t hm hs ht
    exact (leads_of_step hm).ended_false heard hs ht
  · intro done waking
    have hwoken := (heard.delivered (heard.tellers done) waking).2
    unfold needsTimer
    split
    · rename_i hw
      exact (hwoken _ _ _ hw).symm
    · rfl
  · intro done hs later t hlater
    exact run_isCleared hlater (heard.tellers done) hs
  · intro done prompt t hprompt ht
    have told := heard.tellers done
    have hlen : prompt.length + t.rank ≤ s.rank := length_le_rank ht told hprompt
    have hrank : s.rank ≤ 4 := s.rank_le
    refine ⟨by omega, (run_keeps Heard.leads heard ht).prompt ?_⟩
    exact run_keeps (P := fun s => s.told = true) (fun hs hm => hm.told hs) told ht
  · rw [← run_single, h]
    rfl

/-- Two who tell the loop while it listens, the first of whom is late to wake it. -/
theorem obeys_of_late_wake :
    ∃ s, run [.enter 5, .look, .listen, .set, .set, .pass 2, .wake, .heed] fresh = some s ∧
      s.wait = .ended false ∧ s.tellers = 2 ∧
      Obeys [.enter 5, .look, .listen, .set, .set, .pass 2, .wake, .heed] s :=
  ⟨_, rfl, rfl, rfl, obeys_of_run rfl⟩

/-- A wait for longer than any wait lasts ends as whole before its time, and one that listens still
needs its timer when who finds the flag set is done before who set it. -/
theorem whole_too_early_and_done_too_early :
    (∃ s t, run [.enter (longestWait + 1), .look, .listen, .pass longestWait, .expire, .runOut]
        fresh = some s ∧ s.step .lookAgain = some t ∧ t.wait = .ended true ∧
        s.clock < s.since + s.span) ∧
      ∃ s, run [.enter 5, .look, .listen, .set, .set] fresh = some s ∧ 0 < s.tellers ∧
        s.needsTimer = true := by
  refine ⟨⟨_, _, rfl, rfl, rfl, ?_⟩, _, rfl, ?_, rfl⟩
  · decide
  · decide

end Signal

/-- Every wait of a loop is one that some moves lead to: it begins and ends at the same times, and
finds the same. -/
theorem sleep_is_run {s : State σ} (h : s.Timely) (wait : Nat) :
    ∃ ms t, Signal.run ms .fresh = some t ∧ t.since = s.clock ∧ t.span = wait ∧
      t.wait = .ended (!(s.sleep wait).told) ∧ t.told = (s.sleep wait).told ∧
      t.clock = (s.sleep wait).clock := by
  cases ht : s.told with
  | true =>
    rw [State.sleep_of_told ht wait]
    refine ⟨[.pass s.clock, .set, .wake, .enter wait, .look], _, rfl, ?_⟩
    simp [Signal.fresh, Signal.set, Signal.wake, ht]
  | false =>
    cases hb : s.stopBy (s.clock + min wait longestWait) with
    | none =>
      refine ⟨[.pass s.clock, .enter wait, .look, .listen, .pass (min wait longestWait), .expire,
        .runOut, .lookAgain], ?_⟩
      rw [State.sleep_of_not_told ht]
      simp [Signal.run, Signal.step, Signal.fresh, Signal.listen, Wait.isUnderWay, hb, ht]
    | some due =>
      obtain ⟨hdue, -⟩ := Option.filter_eq_some_iff.1 hb
      have hle : s.clock ≤ due := h due hdue
      refine ⟨[.pass s.clock, .enter wait, .look, .listen, .pass (due - s.clock), .set, .wake,
        .heed], ?_⟩
      rw [State.sleep_of_not_told ht]
      simp [Signal.run, Signal.step, Signal.fresh, Signal.listen, Signal.set, Signal.wake,
        Wait.isUnderWay, hb, Nat.add_sub_cancel' hle]

end LiveTelemetry.Loop
