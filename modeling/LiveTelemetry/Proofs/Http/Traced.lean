import LiveTelemetry.Proofs.Http.Follow
/-!
Links that write down what they carry. Main statements: such a link does what the plain one does,
and what it writes down for a post is the post itself and the requests that the answers ask for.
-/
namespace LiveTelemetry.Http

/-- A request that was carried, and what became of it. -/
structure Carriage where
  request : Request
  delivery : Delivery

/-- What is beyond a link, with all that the link has carried. -/
structure Traced (σ : Type) where
  beyond : σ
  carried : List Carriage

/-- The same link, which now writes down what it carries. -/
def Link.traced (l : Link σ) : Link (Traced σ) where
  carry r s :=
    let passage := l.carry r s.beyond
    ⟨passage.delivery, passage.latency,
      ⟨passage.beyond, s.carried ++ [⟨r, passage.delivery⟩]⟩⟩

/-- A post of a body to a target: all that is carried for it, and the response. -/
structure Attempt where
  target : String
  body : List Char
  carried : List Carriage
  response : Except Failure Answer

-- Sealed, as what is proved of attempts does not depend on how the link carries them.
@[irreducible] def Link.attempt (l : Link σ) (timeout : Nat) (target : String)
    (body : List Char) (s : σ) : Attempt :=
  let x := l.traced.post timeout target body ⟨s, []⟩
  ⟨target, body, x.beyond.carried, x.outcome⟩

/-- The requests that one leads to: after each comes the one that its answer asks for. -/
inductive Chain : Request → List Carriage → Prop
  | last (r : Request) (d : Delivery) : Chain r [⟨r, d⟩]
  | on {r next : Request} {a : Answer} {more : List Carriage} (asks : a.next? r = some next)
      (rest : Chain next more) : Chain r (⟨r, .answered a⟩ :: more)

/-- How a post can go: nothing is carried if the target cannot be asked, and else the post is, and
what the answers ask for. An answer that is the response asks for nothing more. -/
inductive Attempt.Proper : Attempt → Prop
  | unmade {target : String} {body : List Char} {e : Failure}
      (place : Url.ofTarget target = .error e) : Proper ⟨target, body, [], .error e⟩
  | made {target : String} {body : List Char} {q : Url} {carried : List Carriage}
      {response : Except Failure Answer} (place : Url.ofTarget target = .ok q)
      (chain : Chain ⟨.post, q, some body⟩ carried) (few : carried.length ≤ maxHops + 1)
      (answered : ∀ a, response = .ok a →
        ∃ r, carried.getLast? = some ⟨r, .answered a⟩ ∧ a.next? r = none) :
      Proper ⟨target, body, carried, response⟩

section

variable {l : Link σ} {timeout : Nat} {target : String} {body : List Char}

/-- To write down what is carried changes nothing else. -/
theorem Link.alike_traced (l : Link σ) : Link.Alike (fun s t => s.beyond = t) l.traced l := by
  rintro r s _ rfl
  exact ⟨rfl, rfl, rfl⟩

/-- What was carried before does not matter to a link that writes it down. -/
theorem Link.alike_after (l : Link σ) (past : List Carriage) :
    Link.Alike (fun s t => s.beyond = t.beyond ∧ t.carried = past ++ s.carried) l.traced
      l.traced := by
  rintro r s t ⟨hbeyond, hcarried⟩
  simp only [Link.traced, hbeyond, hcarried, List.append_assoc, and_self]

theorem Link.attempt_made (s : σ) : (l.attempt timeout target body s).target = target ∧
    (l.attempt timeout target body s).body = body := by
  rw [attempt]
  exact ⟨rfl, rfl⟩

theorem Link.attempt_response (s : σ) : (l.attempt timeout target body s).response =
    (l.post timeout target body s).outcome := by
  rw [attempt]
  exact (l.alike_traced.post (s := ⟨s, []⟩) (t := s) rfl timeout target body).outcome

/-- A link that writes down what it carries does the same, and adds what it carries for this. -/
theorem Link.post_traced (s : Traced σ) :
    let x := l.post timeout target body s.beyond
    l.traced.post timeout target body s = ⟨x.outcome, x.latency,
      ⟨x.beyond, s.carried ++ (l.attempt timeout target body s.beyond).carried⟩⟩ := by
  dsimp only
  have hplain := l.alike_traced.post (s := s) rfl timeout target body
  have hmore := (l.alike_after s.carried).post (s := ⟨s.beyond, []⟩) (t := s)
    ⟨rfl, (List.append_nil _).symm⟩ timeout target body
  have hadded : (l.traced.post timeout target body s).beyond.carried =
      s.carried ++ (l.attempt timeout target body s.beyond).carried := by
    rw [attempt]
    exact hmore.beyond.2
  rw [← hplain.outcome, ← hplain.latency, ← hplain.beyond, ← hadded]

/-- It makes no difference to a post who else writes it down. -/
theorem Link.attempt_traced (s : Traced σ) :
    l.traced.attempt timeout target body s = l.attempt timeout target body s.beyond := by
  have hsame : Link.Alike (fun (x : Traced (Traced σ)) (y : Traced σ) =>
      x.beyond.beyond = y.beyond ∧ x.carried = y.carried) l.traced.traced l.traced := by
    rintro r x y ⟨hbeyond, hcarried⟩
    simp only [Link.traced, hbeyond, hcarried, and_self]
  obtain ⟨houtcome, -, -, hcarried⟩ :=
    hsame.post (s := ⟨s, []⟩) (t := ⟨s.beyond, []⟩) ⟨rfl, rfl⟩ timeout target body
  rw [attempt, attempt, houtcome, hcarried]

/-- What is written down for an exchange is its first request and what the answers ask for. -/
theorem Link.exists_chain_of_follow (l : Link σ) (timeout : Nat) (first : Url) (hops spent : Nat)
    (r : Request) (s : Traced σ) :
    let x := l.traced.follow timeout first hops spent r s
    ∃ more, x.beyond.carried = s.carried ++ more ∧ Chain r more ∧ more.length ≤ hops + 1 ∧
      ∀ a, x.outcome = .ok a → ∃ q, more.getLast? = some ⟨q, .answered a⟩ ∧ a.next? q = none := by
  induction hops using Nat.strongRecOn generalizing spent r s with
  | ind hops ih =>
    intro x
    let d := (l.traced.carry r s).delivery
    have hone : (l.traced.carry r s).beyond.carried = s.carried ++ [⟨r, d⟩] := rfl
    rcases l.traced.follow_cases timeout first hops spent r s with
      ⟨hbeyond, hends⟩ | ⟨a, next, fewer, ha, hasks, rfl, hon⟩
    · refine ⟨[⟨r, d⟩], ?_, .last r d, by simp, ?_⟩
      · rw [hbeyond, hone]
      · intro a hok
        obtain ⟨ha, hlast⟩ := hends a hok
        exact ⟨r, by rw [List.getLast?_singleton, ← ha], hlast⟩
    · obtain ⟨more, hmore, hchain, hfew, hends⟩ :=
        ih fewer fewer.lt_succ_self (spent + (l.traced.carry r s).latency) next
          (l.traced.carry r s).beyond
      rw [← hon] at hmore hends
      have hd : d = .answered a := ha
      refine ⟨⟨r, d⟩ :: more, ?_, ?_, Nat.succ_le_succ hfew, ?_⟩
      · rw [hmore, hone, List.append_assoc, List.singleton_append]
      · rw [hd]
        exact .on hasks hchain
      · intro b hok
        obtain ⟨q, hq, hlast⟩ := hends b hok
        exact ⟨q, by rw [List.getLast?_cons, hq, Option.getD_some], hlast⟩

theorem Link.attempt_proper (s : σ) : (l.attempt timeout target body s).Proper := by
  rw [Link.attempt, Link.post]
  cases hplace : Url.ofTarget target with
  | error e => exact .unmade hplace
  | ok q =>
    obtain ⟨more, hmore, hchain, hfew, hends⟩ :=
      l.exists_chain_of_follow timeout q maxHops 0 ⟨.post, q, some body⟩ ⟨s, []⟩
    rw [List.nil_append] at hmore
    subst hmore
    exact .made hplace hchain hfew hends

end

end LiveTelemetry.Http
