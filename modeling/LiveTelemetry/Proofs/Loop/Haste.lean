import LiveTelemetry.Proofs.Loop.Pace
import LiveTelemetry.Proofs.Loop.Tally
/-!
What a loop does without a wait. Main statements: it goes on at once only from an active ping to a
call to prepare, from there to the send, and from a send answered as idle to a ping. The calls that
it makes in a row are bounded by how many sends among them are answered as idle, and not otherwise.
-/
namespace LiveTelemetry

/-- Intervals that are usable are not zero. -/
theorem Intervals.pos_of_check {i : Intervals} (h : i.check = .ok ()) :
    0 < i.ping ∧ 0 < i.post ∧ 0 < i.error := by
  unfold check at h
  split at h
  · contradiction
  · split at h
    · contradiction
    · split at h
      · contradiction
      · omega

namespace Loop

/-- Deeds that follow on one another at once. -/
inductive Hurried : Deed → Deed → Prop where
  | activated (e e' : Option String) {d : Directive} (active : d.isActive = true)
      (outcome : Except String Unit) : Hurried (.ping e (.ok d)) (.prepare e' outcome)
  | prepared (e : Option String) (outcome : Except String Directive) :
      Hurried (.prepare e (.ok ())) (.send outcome)
  | deactivated {d : Directive} (idle : d.isActive = false) (e : Option String)
      (outcome : Except String Directive) : Hurried (.send (.ok d)) (.ping e outcome)

/-- Exchanges that follow on one another without a wait. -/
def Unbroken (xs : List Exchange) : Prop := xs.IsChain fun x y => y.begun = x.ended

/-- No directive of a record hints at not waiting at all. -/
def NoZeroHint (xs : List Exchange) : Prop :=
  ∀ x ∈ xs, ∀ d, x.directive? = some d → d.hint ≠ some 0

/-- A cycle does not end when it is prepared. -/
theorem Orderly.not_prepared {xs : List Exchange} (h : Orderly xs) : ¬ Prepared xs := by
  cases h with
  | nil => exact not_prepared_nil
  | @cycle xs ys before next =>
    generalize hm : modeAfter .pinging xs = m at next
    generalize hd : ys.map Exchange.deed = ds at next
    cases next with
    | ping e outcome =>
      obtain ⟨x, rfl, hx⟩ := List.map_eq_singleton_iff.1 hd
      simp [hx]
    | unprepared e message =>
      obtain ⟨x, rfl, hx⟩ := List.map_eq_singleton_iff.1 hd
      simp [hx]
    | sent e outcome =>
      obtain ⟨x, zs, rfl, -, hd⟩ := List.map_eq_cons_iff.1 hd
      obtain ⟨y, rfl, hy⟩ := List.map_eq_singleton_iff.1 hd
      rw [← List.singleton_append, ← List.append_assoc, prepared_append_singleton]
      simp [hy]

/-- What follows in a cycle on a call to prepare that went well. -/
theorem CycleOf.send_of_prepared {m : Mode} {pre post : List Exchange} {x y : Exchange}
    (h : CycleOf m ((pre ++ x :: y :: post).map Exchange.deed)) :
    ∃ outcome, y.deed = .send outcome := by
  generalize hd : (pre ++ x :: y :: post).map Exchange.deed = ds at h
  have hlength : pre.length + (post.length + 1 + 1) = ds.length := by
    rw [← hd, List.length_map, List.length_append, List.length_cons, List.length_cons]
  cases h with
  | ping e outcome =>
    rw [List.length_singleton] at hlength
    omega
  | unprepared e message =>
    rw [List.length_singleton] at hlength
    omega
  | sent e outcome =>
    rw [List.length_cons, List.length_singleton] at hlength
    obtain rfl : pre = [] := List.length_eq_zero_iff.1 (by omega)
    obtain ⟨-, hy, -⟩ : x.deed = .prepare e (.ok ()) ∧ y.deed = .send outcome ∧ post = [] := by
      simpa using hd
    exact ⟨outcome, hy⟩

/-- A call to prepare that went well has the send follow. -/
theorem Orderly.send_of_prepared {xs : List Exchange} (h : Orderly xs)
    {pre post : List Exchange} {x y : Exchange} (hxs : xs = pre ++ x :: y :: post)
    {e : Option String} (hx : x.deed = .prepare e (.ok ())) :
    ∃ outcome, y.deed = .send outcome := by
  induction h generalizing post with
  | nil => simp at hxs
  | @cycle xs ys before next ih =>
    rcases List.append_eq_append_iff.1 hxs with ⟨ys', -, rfl⟩ | ⟨xs', hpre, hys⟩
    · exact next.send_of_prepared
    · -- The last exchange of whole cycles is not `x`, so `y` is in the same cycle.
      rcases xs' with - | ⟨x', - | ⟨y', xs'⟩⟩
      · obtain rfl : [] ++ x :: y :: post = ys := hys
        exact next.send_of_prepared
      · obtain ⟨rfl, -⟩ : x = x' ∧ y :: post = ys := by simpa using hys
        exact absurd ⟨pre, x, e, hpre, hx⟩ before.not_prepared
      · obtain ⟨rfl, rfl, -⟩ : x = x' ∧ y = y' ∧ post = xs' ++ ys := by simpa using hys
        exact ih hpre

/-- Exchanges follow on one another at once just where no pause is called for. -/
theorem OnTime.begun_eq_iff {i : Intervals} {opened : Nat} {xs pre post : List Exchange}
    {x y : Exchange} (h : OnTime i opened xs) (hxs : xs = pre ++ x :: y :: post) :
    y.begun = x.ended ↔ x.pause i = 0 := by
  have hdue : y.begun = due i opened (pre ++ [x]) := h (pre ++ [x]) y post (by simpa using hxs)
  have hpos : 0 < longestWait := by decide
  rw [hdue, due_snoc]
  omega

/-- What is due next after an exchange that calls for no pause. -/
theorem Orderly.hurried {i : Intervals} {xs pre post : List Exchange} {x y : Exchange}
    (h : Orderly xs) (hi : i.check = .ok ()) (hints : NoZeroHint xs)
    (hxs : xs = pre ++ x :: y :: post) (hp : x.pause i = 0) : Hurried x.deed y.deed := by
  obtain ⟨hping, hpost, herror⟩ := Intervals.pos_of_check hi
  have hdue : Due (pre ++ [x]) y := h.due (by simpa using hxs)
  have hnext {e : Option String} (hx : x.deed = .prepare e (.ok ())) :
      ∃ outcome, y.deed = .send outcome := h.send_of_prepared hxs hx
  have hhint := hints x (by simp [hxs])
  obtain ⟨begun, ended, deed⟩ := x
  obtain ⟨begun', ended', deed'⟩ := y
  cases deed with
  | ping e outcome =>
    cases outcome with
    | error message => exact absurd hp (Nat.ne_of_gt herror)
    | ok d =>
      cases ha : d.isActive with
      | true =>
        have hmode : modeAfter .pinging (pre ++ [⟨begun, ended, .ping e (.ok d)⟩]) = .sending := by
          simp [Exchange.directive?, Directive.mode, ha]
        cases deed' with
        | ping e' outcome => exact absurd (hmode.symm.trans hdue) (by decide)
        | prepare e' outcome => exact .activated e e' ha outcome
        | send outcome => exact absurd hdue.2 (by simp)
      | false =>
        have hwait : d.hint.getD i.ping = 0 := by simpa [Exchange.pause, ha] using hp
        cases hd : d.hint with
        | none =>
          rw [hd, Option.getD_none] at hwait
          exact absurd hwait (Nat.ne_of_gt hping)
        | some wait =>
          rw [hd, Option.getD_some] at hwait
          exact absurd (hd.trans (congrArg some hwait)) (hhint d rfl)
  | prepare e outcome =>
    cases outcome with
    | error message => exact absurd hp (Nat.ne_of_gt herror)
    | ok u =>
      obtain ⟨outcome, rfl⟩ : ∃ outcome, deed' = .send outcome := hnext rfl
      exact .prepared e outcome
  | send outcome =>
    cases outcome with
    | error message => exact absurd hp (Nat.ne_of_gt herror)
    | ok d =>
      cases ha : d.isActive with
      | true =>
        have hwait : i.post = 0 := by simpa [Exchange.pause, ha] using hp
        exact absurd hwait (Nat.ne_of_gt hpost)
      | false =>
        have hmode : modeAfter .pinging (pre ++ [⟨begun, ended, .send (.ok d)⟩]) = .pinging := by
          simp [Exchange.directive?, Directive.mode, ha]
        cases deed' with
        | ping e' outcome => exact .deactivated ha e' outcome
        | prepare e' outcome => exact absurd (hmode.symm.trans hdue) (by decide)
        | send outcome => exact absurd (hmode.symm.trans hdue.1) (by decide)

theorem Hurried.pause_eq {x y : Exchange} (h : Hurried x.deed y.deed) (i : Intervals) :
    x.pause i = 0 := by
  generalize hx : x.deed = a at h
  generalize hy : y.deed = b at h
  cases h with
  | activated e e' active outcome => simp [Exchange.pause, hx, active]
  | prepared e outcome => simp [Exchange.pause, hx]
  | deactivated idle e outcome => simp [Exchange.pause, hx, idle]

/-- The most calls that a cycle makes from an exchange on. -/
def Exchange.room (x : Exchange) : Nat :=
  match x.deed with
  | .ping _ _ => 4
  | .prepare _ _ => 3
  | .send _ => 2

theorem Exchange.room_le (x : Exchange) : x.room ≤ 4 := by
  unfold room
  split <;> omega

theorem Exchange.length_calls_le (x : Exchange) : x.calls.length ≤ x.room := by
  obtain ⟨begun, ended, deed⟩ := x
  cases deed with
  | ping e outcome => exact Nat.le_add_left 1 3
  | prepare e outcome => exact Nat.le_add_left 1 2
  | send outcome => cases outcome <;> simp [calls, room]

/-- Each exchange that is followed at once makes its calls out of what room there is, or is a send
answered as idle, which makes room for a ping and all that may follow. -/
theorem Hurried.room_le {x y : Exchange} (h : Hurried x.deed y.deed) :
    x.calls.length + y.room ≤ x.room + 4 * if x.deactivates then 1 else 0 := by
  obtain ⟨begun, ended, deed⟩ := x
  obtain ⟨begun', ended', deed'⟩ := y
  cases h with
  | activated e e' active outcome => exact Nat.le_refl 4
  | prepared e outcome => exact Nat.le_refl 3
  | deactivated idle e outcome =>
    simp [Exchange.calls, Exchange.room, Exchange.deactivates, idle]

theorem length_calls_of_hurried {x : Exchange} {xs : List Exchange}
    (h : (x :: xs).IsChain fun x y => Hurried x.deed y.deed) :
    ((x :: xs).flatMap Exchange.calls).length ≤
      x.room + 4 * (x :: xs).countP Exchange.deactivates := by
  -- What is left of the room after `x` is that of the exchange which follows it.
  induction xs generalizing x with
  | nil =>
    have hx := x.length_calls_le
    simp only [List.flatMap_cons, List.flatMap_nil, List.append_nil]
    omega
  | cons y ys ih =>
    obtain ⟨hxy, hys⟩ := List.isChain_cons_cons.1 h
    have hroom := hxy.room_le
    have hrest := ih hys
    rw [List.flatMap_cons, List.length_append, List.countP_cons]
    omega

/-- A loop goes on without a wait only from an active ping to a call to prepare, from a call to
prepare that went well to the send, and from a send answered as idle to a ping. So the calls that it
makes in a row without a wait are at most four for each send among them that is answered as idle,
and four more. -/
theorem calls_in_a_row {p : Partners σ} {i : Intervals} {clock : Nat} {before : Bool}
    {wait : Option Nat} {w : σ} {xs : List Exchange} {s : State σ} (hi : i.check = .ok ())
    (h : Runs p i (State.opening clock before wait w) xs s) (hints : NoZeroHint xs) :
    (∀ pre x y post, xs = pre ++ x :: y :: post →
      (y.begun = x.ended ↔ Hurried x.deed y.deed)) ∧
    (∀ pre mid post, xs = pre ++ mid ++ post → Unbroken mid →
      (mid.flatMap Exchange.calls).length ≤ 4 * (mid.countP Exchange.deactivates + 1)) := by
  have ho : InOrder (s.watch xs) := Visits.inOrder h
  have hp : Punctual i clock (s.watch xs) := Visits.punctual h
  have honTime : OnTime i clock xs := hp.onTime
  have horderly : Orderly xs := ho.cycles
  have hiff (pre : List Exchange) (x y : Exchange) (post : List Exchange)
      (hxs : xs = pre ++ x :: y :: post) : y.begun = x.ended ↔ Hurried x.deed y.deed := by
    rw [honTime.begun_eq_iff hxs]
    exact ⟨horderly.hurried hi hints hxs, fun hh => hh.pause_eq i⟩
  refine ⟨hiff, ?_⟩
  intro pre mid post hxs hmid
  have hchain : mid.IsChain fun x y => Hurried x.deed y.deed := by
    rw [List.isChain_iff_forall_rel_of_append_cons_cons]
    intro x y before after hsplit
    have hbegun : y.begun = x.ended :=
      List.isChain_iff_forall_rel_of_append_cons_cons.1 hmid hsplit
    exact (hiff (pre ++ before) x y (after ++ post) (by simp [hxs, hsplit])).1 hbegun
  cases mid with
  | nil => exact Nat.zero_le _
  | cons x mid =>
    have hlength := length_calls_of_hurried hchain
    have hroom := x.room_le
    omega

/-- A ping answered as active, the send answered as idle that follows, and the ping after that are
made in a row, and the bound holds for the five calls. -/
theorem calls_in_a_row_of_one_turn :
    let active : Directive := ⟨.active, none, none⟩
    let cast : Cast := ⟨⟨[⟨0, .ok active⟩], ⟨0, .ok .idle⟩⟩, .always (), .always none, .idle, none⟩
    let i : Intervals := ⟨10, 20, 30⟩
    let s₀ := State.opening 0 false none cast
    let s := (((s₀.start i).turn Cast.partners i).turn Cast.partners i).turn Cast.partners i
    let xs : List Exchange := [⟨0, 0, .ping none (.ok active)⟩, ⟨0, 0, .prepare none (.ok ())⟩,
      ⟨0, 0, .send (.ok .idle)⟩, ⟨0, 0, .ping none (.ok .idle)⟩]
    i.check = .ok () ∧ Runs Cast.partners i s₀ xs s ∧ NoZeroHint xs ∧ Unbroken xs ∧
      (xs.flatMap Exchange.calls).length = 5 ∧
      (xs.flatMap Exchange.calls).length ≤ 4 * (xs.countP Exchange.deactivates + 1) := by
  intro active cast i s₀ s xs
  have hr : Runs Cast.partners i s₀ xs s :=
    ((Runs.start.turn (by decide) rfl rfl).turn (by decide) rfl rfl).turn (by decide) rfl rfl
  have hints : NoZeroHint xs := by
    simp [NoZeroHint, xs, active, Exchange.directive?, Directive.idle]
  have hunbroken : Unbroken xs := by
    simp [Unbroken, xs]
  exact ⟨rfl, hr, hints, hunbroken, rfl,
    (calls_in_a_row rfl hr hints).2 [] xs [] (by simp) hunbroken⟩

/-- `mid` is all that a run does between a wait and the next one. -/
def Spell (xs mid : List Exchange) : Prop :=
  ∃ pre x z post, xs = pre ++ x :: (mid ++ z :: post) ∧ Unbroken mid ∧
    (∀ y ∈ mid.head?, x.ended < y.begun) ∧ (∀ y ∈ mid.getLast?, y.ended < z.begun)

namespace Fickle

/-- Partners who find the service active with each ping and idle with each send, and take no time,
until the pings that are planned are over. -/
def cast (pings : List (Planned Directive)) : Cast :=
  ⟨⟨pings, ⟨0, .error "refused"⟩⟩, .always (), .always none, .idle, none⟩

def active : Directive := ⟨.active, none, none⟩

/-- A ping and the send that follows, at a time. -/
def round (clock : Nat) : List Exchange :=
  [⟨clock, clock, .ping none (.ok active)⟩, ⟨clock, clock, .prepare none (.ok ())⟩,
    ⟨clock, clock, .send (.ok .idle)⟩]

/-- The loop is about to ping, with so many pings planned that find the service active. -/
structure Poised (clock planned : Nat) (s : State Cast) : Prop where
  mode : s.mode = .pinging
  override : s.override = none
  clock : s.clock = clock
  told : s.told = false
  stopAt : s.stopAt = none
  partners : s.partners = cast (List.replicate planned ⟨0, .ok active⟩)

variable {i : Intervals} {s₀ s : State Cast} {xs : List Exchange} {clock planned : Nat}

/-- A round takes the loop back to where it was, at the same time. -/
theorem Poised.round (h : Poised clock (planned + 1) s) (hr : Runs Cast.partners i s₀ xs s) :
    ∃ t, Poised clock planned t ∧ Runs Cast.partners i s₀ (xs ++ round clock) t := by
  obtain ⟨mode, override, tally, now, told, stopAt, partners, past⟩ := s
  obtain ⟨rfl, rfl, rfl, rfl, rfl, rfl⟩ := h
  have hping : Runs Cast.partners i s₀ (xs ++ [⟨now, now, .ping none (.ok active)⟩]) _ :=
    hr.turn (by simp) rfl rfl
  have hpost : Runs Cast.partners i s₀ (xs ++ [⟨now, now, .ping none (.ok active)⟩] ++
      [⟨now, now, .prepare none (.ok ())⟩] ++ [⟨now, now, .send (.ok .idle)⟩]) _ :=
    hping.turn (turn_going _ _ (by simp)) rfl rfl
  rw [List.append_assoc, List.append_assoc] at hpost
  refine ⟨_, ?_, hpost⟩
  exact ⟨rfl, rfl, rfl, rfl, rfl, rfl⟩

theorem Poised.rounds (h : Poised clock planned s) (hr : Runs Cast.partners i s₀ xs s) :
    ∃ t, Poised clock 0 t ∧
      Runs Cast.partners i s₀ (xs ++ (List.replicate planned (Fickle.round clock)).flatten) t := by
  induction planned generalizing s xs with
  | zero => exact ⟨s, h, by simpa using hr⟩
  | succ planned ih =>
    obtain ⟨t, ht, hr⟩ := h.round hr
    obtain ⟨u, hu, hr⟩ := ih ht hr
    exact ⟨u, hu, by simpa [List.replicate_succ] using hr⟩

/-- The ping that is not answered, at a time. -/
def refused (clock : Nat) : Exchange := ⟨clock, clock, .ping none (.error "refused")⟩

theorem Poised.refused (h : Poised clock 0 s) (hr : Runs Cast.partners i s₀ xs s) :
    ∃ t, Poised (clock + min i.error longestWait) 0 t ∧
      Runs Cast.partners i s₀ (xs ++ [refused clock]) t := by
  obtain ⟨mode, override, tally, now, told, stopAt, partners, past⟩ := s
  obtain ⟨rfl, rfl, rfl, rfl, rfl, rfl⟩ := h
  have hping : Runs Cast.partners i s₀ (xs ++ [Fickle.refused now]) _ := hr.turn (by simp) rfl rfl
  refine ⟨_, ?_, hping⟩
  exact ⟨rfl, rfl, rfl, rfl, rfl, rfl⟩

/-- What happens all at one time has no wait in it. -/
theorem unbroken_of_forall (h : ∀ x ∈ xs, x.begun = clock ∧ x.ended = clock) : Unbroken xs := by
  have hpairwise : xs.Pairwise fun x y => y.begun = x.ended := by
    apply List.pairwise_of_forall_mem_list
    intro x hx y hy
    rw [(h y hy).1, (h x hx).2]
  exact hpairwise.isChain

theorem mem_rounds {x : Exchange}
    (h : x ∈ (List.replicate planned (Fickle.round clock)).flatten) : x ∈ Fickle.round clock := by
  obtain ⟨l, hl, hx⟩ := List.mem_flatten.1 h
  rwa [List.eq_of_mem_replicate hl] at hx

/-- All of a round is at one time, and no directive in it has a hint. -/
theorem of_mem_round {x : Exchange} (h : x ∈ Fickle.round clock) :
    (x.begun = clock ∧ x.ended = clock) ∧ ∀ d, x.directive? = some d → d.hint = none := by
  simp only [Fickle.round, List.mem_cons, List.not_mem_nil, or_false] at h
  rcases h with rfl | rfl | rfl
  · exact ⟨⟨rfl, rfl⟩, by simp [Exchange.directive?, active]⟩
  · exact ⟨⟨rfl, rfl⟩, by simp [Exchange.directive?]⟩
  · exact ⟨⟨rfl, rfl⟩, by simp [Exchange.directive?, Directive.idle]⟩

theorem length_calls_rounds (n clock : Nat) :
    ((List.replicate n (Fickle.round clock)).flatten.flatMap Exchange.calls).length = 4 * n := by
  induction n with
  | zero => rfl
  | succ n ih =>
    rw [List.replicate_succ, List.flatten_cons, List.flatMap_append, List.length_append, ih]
    have hround : ((Fickle.round clock).flatMap Exchange.calls).length = 4 := rfl
    omega

end Fickle

/-- No number bounds the calls that are made between a wait and the next one, although all intervals
are usable and no hint is zero: a service that is active for each ping and idle for each send keeps
the loop from waiting for as long as it likes. -/
theorem no_bound_between_waits :
    let i : Intervals := ⟨10, 20, 30⟩
    i.check = .ok () ∧
    ¬ ∃ bound, ∀ (cast : Cast) (xs mid : List Exchange) (s : State Cast),
      Runs Cast.partners i (State.opening 0 false none cast) xs s → NoZeroHint xs →
      Spell xs mid → (mid.flatMap Exchange.calls).length ≤ bound := by
  intro i
  refine ⟨rfl, ?_⟩
  rintro ⟨bound, hbound⟩
  let cast : Cast :=
    Fickle.cast (⟨0, .error "refused"⟩ :: List.replicate bound ⟨0, .ok Fickle.active⟩)
  let s₀ := State.opening 0 false none cast
  let rounds := (List.replicate bound (Fickle.round 30)).flatten
  have hfirst : Runs Cast.partners i s₀ [Fickle.refused 0] ((s₀.start i).turn Cast.partners i) :=
    Runs.start.turn (by simp [s₀]) rfl rfl
  have hpoised : Fickle.Poised 30 bound ((s₀.start i).turn Cast.partners i) :=
    ⟨rfl, rfl, rfl, rfl, rfl, rfl⟩
  obtain ⟨s, hs, hrounds⟩ := hpoised.rounds hfirst
  obtain ⟨t, ht, hsecond⟩ := hs.refused hrounds
  obtain ⟨u, -, hthird⟩ := ht.refused hsecond
  have hints : NoZeroHint
      ([Fickle.refused 0] ++ rounds ++ [Fickle.refused 30] ++ [Fickle.refused 60]) := by
    intro x hx d hd
    simp only [List.mem_append, List.mem_singleton] at hx
    rcases hx with ((rfl | hx) | rfl) | rfl
    · contradiction
    · rw [(Fickle.of_mem_round (Fickle.mem_rounds hx)).2 d hd]
      exact (Option.some_ne_none 0).symm
    · contradiction
    · contradiction
  have hinstant : ∀ x ∈ rounds ++ [Fickle.refused 30], x.begun = 30 ∧ x.ended = 30 := by
    intro x hx
    rcases List.mem_append.1 hx with hx | hx
    · exact (Fickle.of_mem_round (Fickle.mem_rounds hx)).1
    · obtain rfl := List.mem_singleton.1 hx
      exact ⟨rfl, rfl⟩
  have hspell : Spell ([Fickle.refused 0] ++ rounds ++ [Fickle.refused 30] ++ [Fickle.refused 60])
      (rounds ++ [Fickle.refused 30]) := by
    refine ⟨[], Fickle.refused 0, Fickle.refused 60, [], by simp,
      Fickle.unbroken_of_forall hinstant, ?_, ?_⟩
    · intro y hy
      rw [(hinstant y (List.mem_of_mem_head? hy)).1]
      decide
    · intro y hy
      rw [(hinstant y (List.mem_of_mem_getLast? hy)).2]
      decide
  have hle := hbound cast _ _ u hthird hints hspell
  have hone : ([Fickle.refused 30].flatMap Exchange.calls).length = 1 := rfl
  rw [List.flatMap_append, List.length_append, Fickle.length_calls_rounds, hone] at hle
  omega

end Loop

end LiveTelemetry
