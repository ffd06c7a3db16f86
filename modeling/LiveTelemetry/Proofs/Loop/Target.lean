import LiveTelemetry.Loop.Script
import LiveTelemetry.Proofs.Loop.Clock
/-!
Which endpoint a call is given. Main statement: it is the endpoint of the last redirect received
while that lasts, and none at any other time.
-/
namespace LiveTelemetry.Loop

namespace Exchange

/-- The redirect that was received with an exchange, and when. -/
def redirect? (x : Exchange) : Option (Nat × Redirect) :=
  (x.directive?.bind Directive.redirect).map fun r => (x.ended, r)

/-- The endpoint that a ping or a call to prepare was given. -/
def given? (x : Exchange) : Option (Option String) :=
  match x.deed with
  | .ping e _ => some e
  | .prepare e _ => some e
  | .send _ => none

end Exchange

/-- The redirect received last, and when. -/
def lastRedirect (xs : List Exchange) : Option (Nat × Redirect) :=
  (xs.filterMap Exchange.redirect?).getLast?

@[simp] theorem lastRedirect_nil : lastRedirect [] = none := rfl

@[simp] theorem lastRedirect_snoc (xs : List Exchange) (x : Exchange) :
    lastRedirect (xs ++ [x]) = x.redirect?.or (lastRedirect xs) := by
  cases h : x.redirect? <;> simp [lastRedirect, h]

theorem exists_of_lastRedirect {xs : List Exchange} {r : Nat × Redirect}
    (h : lastRedirect xs = some r) : ∃ x ∈ xs, x.ended = r.1 := by
  obtain ⟨x, hx, hr⟩ := List.mem_filterMap.1 (List.mem_of_getLast? h)
  obtain ⟨red, -, rfl⟩ := Option.map_eq_some_iff.1 hr
  exact ⟨x, hx, rfl⟩

/-- The override that the last redirect received makes, while it lasts. -/
def inForce (xs : List Exchange) (now : Nat) : Option Override :=
  ((lastRedirect xs).map fun r => Override.ofRedirect r.2 r.1).filter fun o => !o.expired now

theorem inForce_endpoint_eq_some_iff {xs : List Exchange} {now : Nat} {e : String} :
    (inForce xs now).map Override.endpoint = some e ↔
      ∃ r red, lastRedirect xs = some (r, red) ∧ red.endpoint = e ∧
        ∀ v, red.validFor = some v → now < r + v := by
  constructor
  · intro h
    obtain ⟨o, ho, rfl⟩ := Option.map_eq_some_iff.1 h
    obtain ⟨ho, hlasts⟩ := Option.filter_eq_some_iff.1 ho
    obtain ⟨⟨r, red⟩, hr, rfl⟩ := Option.map_eq_some_iff.1 ho
    refine ⟨r, red, hr, rfl, ?_⟩
    intro v hv
    simpa [Override.expired, Override.ofRedirect, hv] using hlasts
  · rintro ⟨r, red, hr, rfl, hv⟩
    have hlasts : (Override.ofRedirect red r).expired now = false := by
      cases hw : red.validFor with
      | none => simp [Override.expired, Override.ofRedirect, hw]
      | some v => simpa [Override.expired, Override.ofRedirect, hw] using hv v hw
    have hforce : inForce xs now = some (Override.ofRedirect red r) :=
      Option.filter_eq_some_iff.2 ⟨by simp [hr], by simp [hlasts]⟩
    rw [hforce]
    rfl

/-- An override that is held stands for the redirects received so far, as far as one may look from
`clock` on. -/
def Follows (held : Option Override) (xs : List Exchange) (clock : Nat) : Prop :=
  ∀ now, clock ≤ now → (Override.current held now).1 = inForce xs now

theorem current_eq_filter (held : Option Override) (now : Nat) :
    (Override.current held now).1 = held.filter fun o => !o.expired now := by
  cases held with
  | none => rfl
  | some o => cases h : o.expired now <;> simp [Override.current, Option.filter, h]

/-- What is over stays over. -/
theorem expired_of_le {o : Override} {now later : Nat} (h : o.expired now = true)
    (hl : now ≤ later) : o.expired later = true := by
  unfold Override.expired at h ⊢
  cases hv : o.expires with
  | none => simp [hv] at h
  | some v =>
    have hle : v ≤ now := by simpa [hv] using h
    simpa using Nat.le_trans hle hl

namespace Follows

theorem later {held : Option Override} {xs : List Exchange} {clock now : Nat}
    (h : Follows held xs clock) (hn : clock ≤ now) : Follows held xs now :=
  fun u hu => h u (Nat.le_trans hn hu)

/-- To give up an override whose time is over changes nothing from then on. -/
theorem current {held : Option Override} {xs : List Exchange} {clock : Nat}
    (h : Follows held xs clock) : Follows (Override.current held clock).1 xs clock := by
  intro now hn
  rw [← h now hn]
  cases held with
  | none => rfl
  | some o =>
    cases he : o.expired clock with
    | false => simp [Override.current, he]
    | true => simp [Override.current, he, expired_of_le he hn]

theorem silent {held : Option Override} {xs : List Exchange} {clock : Nat} {x : Exchange}
    (h : Follows held xs clock) (hx : x.redirect? = none) : Follows held (xs ++ [x]) clock := by
  intro now hn
  rw [h now hn, inForce, inForce, lastRedirect_snoc, hx, Option.none_or]

/-- A redirect that is received takes the place of all before it. -/
theorem receive {held : Option Override} {xs : List Exchange} {clock : Nat} {x : Exchange}
    (h : Follows held xs clock) {d : Directive} (hx : x.directive? = some d)
    (he : x.ended = clock) : Follows (Override.apply held d clock).1 (xs ++ [x]) clock := by
  cases hd : d.redirect with
  | none =>
    have hheld : (Override.apply held d clock).1 = held := by simp [Override.apply, hd]
    rw [hheld]
    exact h.silent (by simp [Exchange.redirect?, hx, hd])
  | some r =>
    intro now _
    have hheld : (Override.apply held d clock).1 = some (Override.ofRedirect r clock) := by
      simp [Override.apply, hd]
    have hlast : x.redirect? = some (clock, r) := by simp [Exchange.redirect?, hx, hd, he]
    rw [hheld, current_eq_filter, inForce, lastRedirect_snoc, hlast]
    rfl

end Follows

/-- Each ping and each call to prepare was given the endpoint in force when it was begun. -/
def WellAimed (xs : List Exchange) : Prop :=
  ∀ pre x post e, xs = pre ++ x :: post → x.given? = some e →
    e = (inForce pre x.begun).map Override.endpoint

theorem WellAimed.snoc {xs : List Exchange} (h : WellAimed xs) {x : Exchange}
    (hx : ∀ e, x.given? = some e → e = (inForce xs x.begun).map Override.endpoint) :
    WellAimed (xs ++ [x]) := by
  intro pre y post e hxs hy
  rcases snoc_eq_append_cons hxs with ⟨rfl, rfl, -⟩ | ⟨rest, -, hrest⟩
  · exact hx e hy
  · exact h pre y rest e hrest hy

/-- What is held stands for the redirects received, and was given to every call. -/
structure OnTarget (s : State (Watched σ)) : Prop where
  held : Follows s.override s.partners.seen s.clock
  given : WellAimed s.partners.seen

theorem endpoint_eq {s : State (Watched σ)} (h : Follows s.override s.partners.seen s.clock) :
    s.endpoint.1 = (inForce s.partners.seen s.clock).map Override.endpoint := by
  rw [← h s.clock (Nat.le_refl _)]
  rfl

theorem OnTarget.turn {p : Partners σ} {i : Intervals} {s : State (Watched σ)} (h : OnTarget s)
    (going : s.mode ≠ .stopped) : OnTarget (s.turn p.watched i) := by
  obtain ⟨t, wait, he, hturn⟩ := turn_exit p.watched i going
  obtain ⟨-, ho, -, hp⟩ := t.rest_fields wait
  suffices hexit : Follows t.override t.partners.seen t.clock ∧ WellAimed t.partners.seen by
    rw [hturn]
    refine ⟨?_, ?_⟩
    · rw [ho, hp]
      exact hexit.1.later (he.timely.rest wait).2
    · rw [hp]
      exact hexit.2
  have hheld := h.held.current
  have haimed {x : Exchange} (hb : x.begun = s.clock) (hx : x.given? = some s.endpoint.1) :
      WellAimed (s.partners.seen ++ [x]) := by
    apply h.given.snoc
    intro e he
    obtain rfl : s.endpoint.1 = e := by simpa [hx] using he
    rw [hb]
    exact endpoint_eq h.held
  have hping : WellAimed (s.partners.seen ++ [s.pingExchange p.watched]) := haimed rfl rfl
  have hprepare : WellAimed (s.partners.seen ++ [s.prepareExchange p.watched]) := haimed rfl rfl
  have hsend : WellAimed (s.partners.seen ++ [s.prepareExchange p.watched] ++
      [(s.prepared p.watched).sendExchange p.watched]) := by
    apply hprepare.snoc
    rintro e ⟨⟩
  have hunprepared : Follows (s.prepared p.watched).override
      (s.partners.seen ++ [s.prepareExchange p.watched]) (s.prepared p.watched).clock := by
    have hx : (s.prepareExchange p.watched).redirect? = none := rfl
    simpa using (hheld.silent hx).later (Nat.le_add_right _ _)
  have hunsent := hunprepared.later
    (Nat.le_add_right _ ((s.prepared p.watched).sendReply p.watched).latency)
  cases he with
  | @pingFailed e mode reply =>
    refine ⟨?_, by simpa using hping⟩
    have hx : (s.pingExchange p.watched).redirect? = none := by
      simp [Exchange.redirect?, reply, Except.toOption]
    simpa using (hheld.silent hx).later (Nat.le_add_right _ _)
  | @activated d mode reply active =>
    refine ⟨?_, by simpa using hping⟩
    have hx : (s.pingExchange p.watched).directive? = some d := by
      simp [reply, Except.toOption]
    simpa using ((hheld.later (Nat.le_add_right _ _)).receive hx rfl).current
  | @idle d mode reply idle =>
    refine ⟨?_, by simpa using hping⟩
    have hx : (s.pingExchange p.watched).directive? = some d := by
      simp [reply, Except.toOption]
    simpa using (hheld.later (Nat.le_add_right _ _)).receive hx rfl
  | prepareFailed mode reply =>
    exact ⟨by simpa using hunprepared, by simpa using hprepare⟩
  | @sendFailed e mode prepared reply =>
    refine ⟨?_, by simpa using hsend⟩
    have hx : ((s.prepared p.watched).sendExchange p.watched).redirect? = none := by
      simp [Exchange.redirect?, reply, Except.toOption]
    simpa using hunsent.silent hx
  | posted mode prepared reply active =>
    refine ⟨?_, by simpa using hsend⟩
    have hx : ((s.prepared p.watched).sendExchange p.watched).directive? =
        some (p.watched.directive ((s.prepared p.watched).sent p.watched).partners) := by
      simp [reply, Except.toOption]
    simpa using hunsent.receive hx rfl
  | deactivated mode prepared reply idle =>
    refine ⟨?_, by simpa using hsend⟩
    have hx : ((s.prepared p.watched).sendExchange p.watched).directive? =
        some (p.watched.directive ((s.prepared p.watched).sent p.watched).partners) := by
      simp [reply, Except.toOption]
    simpa using hunsent.receive hx rfl

theorem Visits.onTarget {p : Partners σ} {i : Intervals} {clock : Nat} {before : Bool}
    {wait : Option Nat} {w : σ} {s : State (Watched σ)}
    (h : Visits p.watched i ((State.opening clock before wait w).watch []) s) : OnTarget s := by
  induction h with
  | start =>
    refine ⟨?_, ?_⟩
    · intro now _
      simp [Override.current, inForce]
    · intro pre x post e hxs
      simp at hxs
  | turn _ going _ ih => exact ih.turn going
  | finish _ _ _ ih => exact ⟨by simpa using ih.held, by simpa using ih.given⟩

/-- A ping or a call to prepare is given an endpoint exactly if the last redirect received before
names it and its window, if it has one, is not over. A call that comes right after an active ping is
given the endpoint of that ping's redirect, unless the window is empty. -/
theorem endpoint_given {p : Partners σ} {i : Intervals} {clock : Nat} {before : Bool}
    {wait : Option Nat} {w : σ} {xs : List Exchange} {s : State σ}
    (h : Runs p i (State.opening clock before wait w) xs s) :
    (∀ pre x post given, xs = pre ++ x :: post → x.given? = some given →
      ∀ e, given = some e ↔ ∃ r red, lastRedirect pre = some (r, red) ∧ r ≤ x.begun ∧
        red.endpoint = e ∧ ∀ v, red.validFor = some v → x.begun < r + v) ∧
    (∀ pre x y post e d red given, xs = pre ++ x :: y :: post → x.deed = .ping e (.ok d) →
      d.isActive = true → d.redirect = some red → red.validFor ≠ some 0 →
      y.given? = some given → given = some red.endpoint) := by
  have ht : InTime xs s.clock := Visits.inTime h
  have ho : WellAimed xs := (Visits.onTarget h).given
  have hlaw : ∀ pre x post given, xs = pre ++ x :: post → x.given? = some given →
      ∀ e, given = some e ↔ ∃ r red, lastRedirect pre = some (r, red) ∧ r ≤ x.begun ∧
        red.endpoint = e ∧ ∀ v, red.validFor = some v → x.begun < r + v := by
    intro pre x post given hxs hx e
    rw [ho pre x post given hxs hx, inForce_endpoint_eq_some_iff]
    constructor
    · rintro ⟨r, red, hr, he, hv⟩
      obtain ⟨y, hy, rfl⟩ := exists_of_lastRedirect hr
      rw [hxs] at ht
      exact ⟨_, red, hr, ht.ended_le hy, he, hv⟩
    · rintro ⟨r, red, hr, -, he, hv⟩
      exact ⟨r, red, hr, he, hv⟩
  refine ⟨hlaw, ?_⟩
  intro pre x y post e d red given hxs hx hact hred hv hy
  have hact : x.activates = true := by simpa [Exchange.activates, hx] using hact
  have hbegun : y.begun = x.ended := by
    rw [hxs] at ht
    exact ht.begun_eq hact
  have hlast : lastRedirect (pre ++ [x]) = some (x.ended, red) := by
    simp [Exchange.redirect?, Exchange.directive?, hx, hred]
  refine (hlaw (pre ++ [x]) y post given (by simpa using hxs) hy red.endpoint).2
    ⟨x.ended, red, hlast, by omega, rfl, ?_⟩
  intro v hw
  have hpos : v ≠ 0 := by
    rintro rfl
    exact hv hw
  omega

/-- A redirect that comes with an idle ping holds when the next ping is made before its end. -/
theorem endpoint_given_of_redirect :
    let red : Redirect := ⟨"http://b", some 15⟩
    let idle : Directive := ⟨.idle, some red, none⟩
    let cast : Cast := ⟨.always idle, .always (), .always none, .idle, none⟩
    let i : Intervals := ⟨10, 20, 30⟩
    let s₀ := State.opening 0 false none cast
    let s := ((s₀.start i).turn Cast.partners i).turn Cast.partners i
    let x : Exchange := ⟨0, 0, .ping none (.ok idle)⟩
    let y : Exchange := ⟨10, 10, .ping (some "http://b") (.ok idle)⟩
    Runs Cast.partners i s₀ [x, y] s ∧
    ∃ r red, lastRedirect [x] = some (r, red) ∧ r ≤ y.begun ∧ red.endpoint = "http://b" ∧
      ∀ v, red.validFor = some v → y.begun < r + v := by
  intro red idle cast i s₀ s x y
  have hr : Runs Cast.partners i s₀ [x, y] s :=
    (Runs.start.turn (by decide) rfl rfl).turn (by decide) rfl rfl
  obtain ⟨hlaw, -⟩ := endpoint_given hr
  exact ⟨hr, (hlaw [x] y [] _ rfl rfl "http://b").1 rfl⟩

end LiveTelemetry.Loop
