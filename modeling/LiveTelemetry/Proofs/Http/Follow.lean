import LiveTelemetry.Http.Exchange
/-!
How an exchange goes, request by request. Main statements: it ends with its first request or goes on
from there, and over two links that treat requests alike it goes the same way.
-/
namespace LiveTelemetry.Http

namespace Link

/-- An exchange ends with what becomes of its first request, or the answer to that sends it on. -/
theorem follow_cases (l : Link σ) (timeout : Nat) (first : Url) (hops spent : Nat) (r : Request)
    (s : σ) :
    let x := l.follow timeout first hops spent r s
    let passage := l.carry r s
    (x.beyond = passage.beyond ∧
      ∀ a, x.outcome = .ok a → passage.delivery = .answered a ∧ a.next? r = none) ∨
    ∃ a next fewer, passage.delivery = .answered a ∧ a.next? r = some next ∧ hops = fewer + 1 ∧
      x = l.follow timeout first fewer (spent + passage.latency) next passage.beyond := by
  rw [Link.follow.eq_def]
  dsimp only
  cases hd : (l.carry r s).delivery with
  | lost => exact .inl ⟨rfl, by rintro a ⟨⟩⟩
  | silent => exact .inl ⟨rfl, by rintro a ⟨⟩⟩
  | answered a =>
    dsimp only
    by_cases hlate : timeout < spent + (l.carry r s).latency
    · rw [if_pos hlate]
      exact .inl ⟨rfl, by rintro a ⟨⟩⟩
    rw [if_neg hlate]
    cases hnext : a.next? r with
    | none =>
      left
      refine ⟨rfl, ?_⟩
      intro b hb
      obtain rfl : a = b := Except.ok.inj hb
      exact ⟨rfl, hnext⟩
    | some next =>
      cases hops with
      | zero => exact .inl ⟨rfl, by rintro a ⟨⟩⟩
      | succ fewer =>
        dsimp only
        by_cases hreach : next.url.isReachable = true
        · rw [if_pos hreach]
          exact .inr ⟨a, next, fewer, rfl, hnext, rfl, rfl⟩
        · rw [if_neg hreach]
          exact .inl ⟨rfl, by rintro a ⟨⟩⟩

/-- What holds of everything that a link carries holds of an exchange. -/
theorem follow_beyond {l : Link σ} {R : σ → σ → Prop}
    (trans : ∀ {s t v}, R s t → R t v → R s v) (carry : ∀ r s, R s (l.carry r s).beyond)
    (timeout : Nat) (first : Url) (hops spent : Nat) (r : Request) (s : σ) :
    R s (l.follow timeout first hops spent r s).beyond := by
  induction hops using Nat.strongRecOn generalizing spent r s with
  | ind hops ih =>
    have hone := carry r s
    rcases l.follow_cases timeout first hops spent r s with
      ⟨hbeyond, -⟩ | ⟨_, next, fewer, -, -, rfl, hon⟩
    · rw [hbeyond]
      exact hone
    · rw [hon]
      exact trans hone (ih fewer fewer.lt_succ_self _ next _)

theorem post_beyond {l : Link σ} {R : σ → σ → Prop} (refl : ∀ s, R s s)
    (trans : ∀ {s t v}, R s t → R t v → R s v) (carry : ∀ r s, R s (l.carry r s).beyond)
    (timeout : Nat) (target : String) (body : List Char) (s : σ) :
    R s (l.post timeout target body s).beyond := by
  unfold Link.post
  split
  · exact refl s
  · exact follow_beyond (R := R) trans carry _ _ _ _ _ _

/-- Links that treat requests alike, by what is beyond the one and beyond the other. -/
def Alike (R : σ → τ → Prop) (l : Link σ) (m : Link τ) : Prop :=
  ∀ r s t, R s t → (l.carry r s).delivery = (m.carry r t).delivery ∧
    (l.carry r s).latency = (m.carry r t).latency ∧ R (l.carry r s).beyond (m.carry r t).beyond

end Link

/-- Exchanges that bring the same, by what is beyond the one link and beyond the other. -/
structure Exchange.Alike (R : σ → τ → Prop) (x : Exchange σ) (y : Exchange τ) : Prop where
  outcome : x.outcome = y.outcome
  latency : x.latency = y.latency
  beyond : R x.beyond y.beyond

namespace Link.Alike

variable {R : σ → τ → Prop} {l : Link σ} {m : Link τ} {s : σ} {t : τ}

theorem follow (h : Alike R l m) (hst : R s t) (timeout : Nat) (first : Url) (hops spent : Nat)
    (r : Request) : (l.follow timeout first hops spent r s).Alike R
      (m.follow timeout first hops spent r t) := by
  induction hops using Nat.strongRecOn generalizing spent r s t with
  | ind hops ih =>
    obtain ⟨hdelivery, hlatency, hbeyond⟩ := h r s t hst
    rw [Link.follow.eq_def, Link.follow.eq_def]
    simp only [hdelivery, hlatency]
    cases (m.carry r t).delivery with
    | lost => exact ⟨rfl, rfl, hbeyond⟩
    | silent => exact ⟨rfl, rfl, hbeyond⟩
    | answered a =>
      dsimp only
      split
      · exact ⟨rfl, rfl, hbeyond⟩
      cases a.next? r with
      | none => exact ⟨rfl, rfl, hbeyond⟩
      | some next =>
        cases hops with
        | zero => exact ⟨rfl, rfl, hbeyond⟩
        | succ fewer =>
          dsimp only
          split
          · exact ih fewer fewer.lt_succ_self hbeyond _ next
          · exact ⟨rfl, rfl, hbeyond⟩

theorem post (h : Alike R l m) (hst : R s t) (timeout : Nat) (target : String)
    (body : List Char) : (l.post timeout target body s).Alike R (m.post timeout target body t) := by
  unfold Link.post
  split
  · exact ⟨rfl, rfl, hst⟩
  · exact h.follow hst timeout _ _ _ _

end Link.Alike

end LiveTelemetry.Http
