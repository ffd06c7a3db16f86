import LiveTelemetry.Proofs.Http.Follow
/-!
The requests that lead to an answer. Main statement: the answer is given to a post with the body
that was to be sent, unless one of the answers before it asked for a request without it.
-/
namespace LiveTelemetry.Http

/-- A request that was carried, and the answer to it. -/
structure Hop where
  request : Request
  answer : Answer

/-- The answer that counts is one that asks for no other request. -/
inductive Trail (l : Link σ) : Request → σ → List Hop → Answer → σ → Prop
  | last {r : Request} {s t : σ} {a : Answer} {latency : Nat}
      (carried : l.carry r s = ⟨.answered a, latency, t⟩) (counts : a.next? r = none) :
      Trail l r s [⟨r, a⟩] a t
  | on {r next : Request} {s t w : σ} {a b : Answer} {latency : Nat} {hops : List Hop}
      (carried : l.carry r s = ⟨.answered a, latency, t⟩) (asks : a.next? r = some next)
      (rest : Trail l next t hops b w) : Trail l r s (⟨r, a⟩ :: hops) b w

section

variable {l : Link σ} {timeout : Nat} {first : Url} {hops spent : Nat} {r next : Request} {s t : σ}
  {a b : Answer} {trail : List Hop}

/-- An exchange that comes to an answer makes at most one request more than it may be sent on. -/
theorem exists_trail_of_follow (h : (l.follow timeout first hops spent r s).outcome = .ok a) :
    ∃ trail, Trail l r s trail a (l.follow timeout first hops spent r s).beyond ∧
      trail.length ≤ hops + 1 := by
  induction hops using Nat.strongRecOn generalizing spent r s with
  | ind hops ih =>
    have hcarried {b : Answer} (hb : (l.carry r s).delivery = .answered b) :
        l.carry r s = ⟨.answered b, (l.carry r s).latency, (l.carry r s).beyond⟩ := by
      rw [← hb]
    rcases l.follow_cases timeout first hops spent r s with
      ⟨hbeyond, hends⟩ | ⟨b, next, fewer, hb, hasks, rfl, hon⟩
    · obtain ⟨ha, hlast⟩ := hends a h
      rw [hbeyond]
      exact ⟨_, .last (hcarried ha) hlast, by simp⟩
    · rw [hon] at h ⊢
      obtain ⟨trail, htrail, hlength⟩ := ih fewer fewer.lt_succ_self h
      exact ⟨_, .on (hcarried hb) hasks htrail, Nat.succ_le_succ hlength⟩

/-- Codes that ask for another request without the body. -/
def Answer.turns (a : Answer) : Prop :=
  a.status.code = 301 ∨ a.status.code = 302 ∨ a.status.code = 303

/-- Codes that ask for the same request at another place. -/
def Answer.repeats (a : Answer) : Prop := a.status.code = 307 ∨ a.status.code = 308

/-- The request that an answer asks for has no body, or the same. -/
theorem next?_cases (h : a.next? r = some next) :
    (a.turns ∧ next.method = .get ∧ next.body = none) ∨
    (a.repeats ∧ next.method = r.method ∧ next.body = r.body) := by
  have hturned (hc : a.turns) (h : (a.location? r.url).map (fun u => ⟨.get, u, none⟩) = some next) :
      a.turns ∧ next.method = .get ∧ next.body = none := by
    obtain ⟨u, -, rfl⟩ := Option.map_eq_some_iff.1 h
    exact ⟨hc, rfl, rfl⟩
  have hrepeated (hc : a.repeats)
      (h : (a.location? r.url).map (fun u => { r with url := u }) = some next) :
      a.repeats ∧ next.method = r.method ∧ next.body = r.body := by
    obtain ⟨u, -, rfl⟩ := Option.map_eq_some_iff.1 h
    exact ⟨hc, rfl, rfl⟩
  rw [Answer.next?] at h
  split at h
  · rename_i hc
    exact .inl (hturned (.inl hc) h)
  · rename_i hc
    exact .inl (hturned (.inr (.inl hc)) h)
  · rename_i hc
    exact .inl (hturned (.inr (.inr hc)) h)
  · rename_i hc
    exact .inr (hrepeated (.inl hc) h)
  · rename_i hc
    exact .inr (hrepeated (.inr hc) h)
  · contradiction

theorem not_turns_of_success (h : a.status.isSuccess = true) : ¬ a.turns := by
  simp only [Status.isSuccess, Bool.and_eq_true, decide_eq_true_eq] at h
  unfold Answer.turns
  omega

theorem not_turns_of_repeats (h : a.repeats) : ¬ a.turns := by
  unfold Answer.repeats at h
  unfold Answer.turns
  omega

theorem not_success_of_next? (h : a.next? r = some next) : a.status.isSuccess = false := by
  have hcode : a.turns ∨ a.repeats := (next?_cases h).imp And.left And.left
  unfold Answer.turns Answer.repeats at hcode
  simp only [Status.isSuccess, Bool.and_eq_false_iff, decide_eq_false_iff_not]
  omega

/-- The first answer is the one that the link carries back. -/
theorem Trail.head (h : Trail l r s trail a t) :
    ∃ b rest, trail = ⟨r, b⟩ :: rest ∧ (l.carry r s).delivery = .answered b := by
  cases h with
  | last carried counts => exact ⟨_, _, rfl, by rw [carried]⟩
  | on carried asks rest => exact ⟨_, _, rfl, by rw [carried]⟩

/-- The answer that counts is given to the first request at another place, unless an answer before
it asked for a request without the body. -/
theorem Trail.ends (h : Trail l r s trail a t) :
    ∃ front q, trail = front ++ [⟨q, a⟩] ∧
      (∀ hop ∈ front, hop.answer.status.isSuccess = false) ∧
      ((q.method = r.method ∧ q.body = r.body ∧ ∀ hop ∈ front, ¬ hop.answer.turns) ∨
      (q.method = .get ∧ q.body = none ∧ ∃ hop ∈ front, hop.answer.turns)) := by
  induction h with
  | @last r _ _ _ _ _ _ => exact ⟨[], r, rfl, by simp, .inl ⟨rfl, rfl, by simp⟩⟩
  | @on r next _ _ _ a _ _ hops _ asks _ ih =>
    obtain ⟨front, q, rfl, hfails, hq⟩ := ih
    refine ⟨⟨r, a⟩ :: front, q, rfl, ?_, ?_⟩
    · exact List.forall_mem_cons.2 ⟨not_success_of_next? asks, hfails⟩
    · rcases hq with ⟨hmethod, hbody, hstraight⟩ | ⟨hmethod, hbody, hop, hmem, hturns⟩
      · rcases next?_cases asks with ⟨hturns, hget, hnone⟩ | ⟨hrepeats, hsame, hkept⟩
        · exact .inr ⟨hmethod.trans hget, hbody.trans hnone, ⟨r, a⟩, by simp, hturns⟩
        · exact .inl ⟨hmethod.trans hsame, hbody.trans hkept,
            List.forall_mem_cons.2 ⟨not_turns_of_repeats hrepeats, hstraight⟩⟩
      · exact .inr ⟨hmethod, hbody, hop, List.mem_cons_of_mem _ hmem, hturns⟩

/-- A post with a body was answered with success exactly if no answer on the way to the one that
counts asked for a request without it. -/
theorem Trail.delivered_iff (h : Trail l r s trail a t) {text : List Char}
    (method : r.method = .post) (body : r.body = some text) (success : a.status.isSuccess = true) :
    (∃ hop ∈ trail, hop.request.method = .post ∧ hop.request.body = some text ∧
      hop.answer.status.isSuccess = true) ↔ ∀ hop ∈ trail, ¬ hop.answer.turns := by
  obtain ⟨front, q, rfl, hfails, hq⟩ := h.ends
  rcases hq with ⟨hmethod, hbody, hstraight⟩ | ⟨hmethod, -, hop, hmem, hturns⟩
  · constructor
    · rintro - hop hmem
      rcases List.mem_append.1 hmem with hmem | hmem
      · exact hstraight hop hmem
      · obtain rfl := List.mem_singleton.1 hmem
        exact not_turns_of_success success
    · intro _
      exact ⟨⟨q, a⟩, by simp, hmethod.trans method, hbody.trans body, success⟩
  · constructor
    · rintro ⟨hop, hmem, hpost, -, hsuccess⟩
      rcases List.mem_append.1 hmem with hmem | hmem
      · rw [hfails hop hmem] at hsuccess
        contradiction
      · obtain rfl := List.mem_singleton.1 hmem
        rw [hmethod] at hpost
        contradiction
    · intro hstraight
      exact absurd hturns (hstraight hop (List.mem_append_left _ hmem))

end

end LiveTelemetry.Http
